import VitaeShell.Template.Page

/-!
# Pages of operations

What operations, hooks and the like bring along, whether they are on something or not, in the
order of their manuals. So do kinds with an argument.
-/

namespace VitaeShell.Template.Page

/-- The pages of operations. -/
def ofOperation : List (String × Page) :=
  [("__repr__", .hook), ("__hash__", .hook), ("__call__", .hook), ("__getattribute__", .hook),
    ("__lt__", .hook), ("__le__", .hook), ("__eq__", .hook), ("__ne__", .hook),
    ("__gt__", .hook), ("__ge__", .hook), ("__reduce__", .operation none []),
    ("__module__", .slot), ("__doc__", .trait []), ("__name__", .trait []),
    ("__qualname__", .trait []), ("__self__", .trait []), ("__text_signature__", .trait [])]

/-- The pages of hooks. -/
def ofHook : List (String × Page) :=
  [("__repr__", .hook), ("__hash__", .hook), ("__call__", .hook), ("__getattribute__", .hook),
    ("__lt__", .hook), ("__le__", .hook), ("__eq__", .hook), ("__ne__", .hook),
    ("__gt__", .hook), ("__ge__", .hook), ("__reduce__", .operation none []),
    ("__self__", .slot), ("__objclass__", .trait []), ("__name__", .trait []),
    ("__qualname__", .trait []), ("__doc__", .trait []), ("__text_signature__", .trait [])]

/-- The pages of operations on no thing yet. -/
def ofOperationOfKind : List (String × Page) :=
  [("__repr__", .hook), ("__call__", .hook), ("__getattribute__", .hook), ("__get__", .hook),
    ("__reduce__", .operation none []), ("__objclass__", .slot), ("__name__", .slot),
    ("__doc__", .trait []), ("__qualname__", .trait []), ("__text_signature__", .trait [])]

/-- The pages of hooks of no thing yet. -/
def ofHookOfKind : List (String × Page) :=
  [("__repr__", .hook), ("__call__", .hook), ("__getattribute__", .hook), ("__get__", .hook),
    ("__reduce__", .operation none []), ("__objclass__", .slot), ("__name__", .slot),
    ("__doc__", .trait []), ("__qualname__", .trait []), ("__text_signature__", .trait [])]

/-- The pages of operations on a kind that is not told yet. -/
def ofOperationOnKind : List (String × Page) :=
  [("__repr__", .hook), ("__call__", .hook), ("__getattribute__", .hook), ("__get__", .hook),
    ("__objclass__", .slot), ("__name__", .slot), ("__doc__", .trait []),
    ("__qualname__", .trait []), ("__text_signature__", .trait [])]

/-- The pages of traits of no thing yet. -/
def ofTraitOfKind : List (String × Page) :=
  [("__repr__", .hook), ("__getattribute__", .hook), ("__get__", .hook), ("__set__", .hook),
    ("__delete__", .hook), ("__objclass__", .slot), ("__name__", .slot), ("__doc__", .trait []),
    ("__qualname__", .trait [])]

/-- The pages of slots of no thing yet. -/
def ofSlotOfKind : List (String × Page) :=
  [("__repr__", .hook), ("__getattribute__", .hook), ("__get__", .hook), ("__set__", .hook),
    ("__delete__", .hook), ("__reduce__", .operation none []), ("__objclass__", .slot),
    ("__name__", .slot), ("__doc__", .trait []), ("__qualname__", .trait [])]

/-- The pages of operations that need no thing. -/
def ofLoose : List (String × Page) :=
  [("__new__", .maker), ("__repr__", .hook), ("__call__", .hook), ("__get__", .hook),
    ("__init__", .hook), ("__func__", .slot), ("__wrapped__", .slot),
    ("__isabstractmethod__", .trait []), ("__dict__", .trait []),
    ("__doc__", .value [
      "staticmethod(function) -> method",
      "",
      "Convert a function to be a static method.",
      "",
      "A static method does not receive an implicit first argument.",
      "To declare a static method, use this idiom:",
      "",
      "     class C:",
      "         @staticmethod",
      "         def f(arg1, arg2, argN):",
      "             ...",
      "",
      "It can be called either on the class (e.g. C.f()) or on an instance",
      "(e.g. C().f()). Both the class and the instance are ignored, and",
      "neither is passed implicitly as the first argument to the method.",
      "",
      "Static methods in Python are similar to those found in Java or C++.",
      "For a more advanced concept, see the classmethod builtin."])]

/-- The pages of kinds with an argument. -/
def ofSpecial : List (String × Page) :=
  [("__new__", .maker), ("__repr__", .hook), ("__hash__", .hook), ("__call__", .hook),
    ("__getattribute__", .hook), ("__lt__", .hook), ("__le__", .hook), ("__eq__", .hook),
    ("__ne__", .hook), ("__gt__", .hook), ("__ge__", .hook), ("__iter__", .hook),
    ("__or__", .hook), ("__ror__", .hook), ("__getitem__", .hook),
    ("__mro_entries__", .operation none []), ("__instancecheck__", .operation none []),
    ("__subclasscheck__", .operation none []), ("__reduce__", .operation none []),
    ("__dir__", .operation none []), ("__origin__", .slot), ("__args__", .slot),
    ("__unpacked__", .slot), ("__parameters__", .trait ["Type variables in the GenericAlias."]),
    ("__typing_unpacked_tuple_args__", .trait []),
    ("__doc__", .value [
      "Represent a PEP 585 generic type",
      "",
      "E.g. for t = list[int], t.__origin__ is list and t.__args__ is (int,)."])]

end VitaeShell.Template.Page
