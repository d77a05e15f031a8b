import VitaeShell.Template.Page

/-!
# Pages of kinds

What kinds themselves and the kind that all others are made from bring along, in the order of
their manuals. So does the kind of nothing.
-/

namespace VitaeShell.Template.Page

/-- The pages that all kinds have in common. -/
def ofAny : List (String × Page) :=
  [("__new__", .maker), ("__repr__", .hook), ("__hash__", .hook), ("__str__", .hook),
    ("__getattribute__", .hook), ("__setattr__", .hook), ("__delattr__", .hook),
    ("__lt__", .hook), ("__le__", .hook), ("__eq__", .hook), ("__ne__", .hook),
    ("__gt__", .hook), ("__ge__", .hook), ("__init__", .hook),
    ("__reduce_ex__", .operation (some "($self, protocol, /)") ["Helper for pickle."]),
    ("__reduce__", .operation (some "($self, /)") ["Helper for pickle."]),
    ("__getstate__", .operation (some "($self, /)") ["Helper for pickle."]),
    ("__subclasshook__", .operationOnKind none [
      "Abstract classes can override this to customize issubclass().",
      "",
      "This is invoked early on by abc.ABCMeta.__subclasscheck__().",
      "It should return True, False or NotImplemented.  If it returns",
      "NotImplemented, the normal algorithm is used.  Otherwise, it",
      "overrides the normal algorithm (and the outcome is cached).",
      ""]),
    ("__init_subclass__", .operationOnKind none [
      "This method is called when a class is subclassed.",
      "",
      "The default implementation does nothing. It may be",
      "overridden to extend subclasses.",
      ""]),
    ("__format__", .operation (some "($self, format_spec, /)") ["Default object formatter."]),
    ("__sizeof__", .operation (some "($self, /)") ["Size of object in memory, in bytes."]),
    ("__dir__", .operation (some "($self, /)") ["Default dir() implementation."]),
    ("__class__", .trait ["the object's class"]),
    ("__doc__", .value [
      "The base class of the class hierarchy.",
      "",
      "When called, it accepts no arguments and returns a new featureless",
      "instance that has no instance attributes and cannot be given any.",
      ""])]

/-- The pages of kinds. -/
def ofKind : List (String × Page) :=
  [("__new__", .maker), ("__repr__", .hook), ("__call__", .hook), ("__getattribute__", .hook),
    ("__setattr__", .hook), ("__delattr__", .hook), ("__init__", .hook), ("__or__", .hook),
    ("__ror__", .hook),
    ("mro", .operation (some "($self, /)") ["Return a type's method resolution order."]),
    ("__subclasses__", .operation (some "($self, /)") ["Return a list of immediate subclasses."]),
    ("__prepare__", .operationOnKind none [
      "__prepare__() -> dict",
      "used to create the namespace for the class statement"]),
    ("__instancecheck__", .operation (some "($self, instance, /)")
      ["Check if an object is an instance."]),
    ("__subclasscheck__", .operation (some "($self, subclass, /)")
      ["Check if a class is a subclass."]),
    ("__dir__", .operation (some "($self, /)") ["Specialized __dir__ implementation for types."]),
    ("__sizeof__", .operation (some "($self, /)")
      ["Return memory consumption of the type object."]),
    ("__basicsize__", .slot), ("__itemsize__", .slot), ("__flags__", .slot),
    ("__weakrefoffset__", .slot), ("__base__", .slot), ("__dictoffset__", .slot),
    ("__mro__", .slot), ("__name__", .trait []), ("__qualname__", .trait []),
    ("__bases__", .trait []), ("__module__", .trait []), ("__abstractmethods__", .trait []),
    ("__dict__", .trait []), ("__doc__", .trait []), ("__text_signature__", .trait []),
    ("__annotations__", .trait [])]

/-- The pages of nothing. -/
def ofNothing : List (String × Page) :=
  [("__new__", .maker), ("__repr__", .hook), ("__bool__", .hook), ("__doc__", .value [])]

end VitaeShell.Template.Page
