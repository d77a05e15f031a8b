import VitaeShell.Template.Page

/-!
# Pages of collections

What groups, tables and the contents of kinds bring along, in the order of their manuals.
-/

namespace VitaeShell.Template.Page

/-- The pages of groups. -/
def ofGroup : List (String × Page) :=
  [("__new__", .maker), ("__repr__", .hook), ("__hash__", .hook), ("__getattribute__", .hook),
    ("__lt__", .hook), ("__le__", .hook), ("__eq__", .hook), ("__ne__", .hook),
    ("__gt__", .hook), ("__ge__", .hook), ("__iter__", .hook), ("__len__", .hook),
    ("__getitem__", .hook), ("__add__", .hook), ("__mul__", .hook), ("__rmul__", .hook),
    ("__contains__", .hook), ("__getnewargs__", .operation (some "($self, /)") []),
    ("index", .operation (some "($self, value, start=0, stop=sys.maxsize, /)") [
      "Return first index of value.",
      "",
      "Raises ValueError if the value is not present."]),
    ("count", .operation (some "($self, value, /)") ["Return number of occurrences of value."]),
    ("__class_getitem__", .operationOnKind none ["See PEP 585"]),
    ("__doc__", .value [
      "Built-in immutable sequence.",
      "",
      "If no argument is given, the constructor returns an empty tuple.",
      "If iterable is specified the tuple is initialized from iterable's items.",
      "",
      "If the argument is a tuple, the return value is the same object."])]

/-- The pages of tables. -/
def ofTable : List (String × Page) :=
  [("__new__", .maker), ("__repr__", .hook), ("__hash__", .value []),
    ("__getattribute__", .hook), ("__lt__", .hook), ("__le__", .hook), ("__eq__", .hook),
    ("__ne__", .hook), ("__gt__", .hook), ("__ge__", .hook), ("__iter__", .hook),
    ("__init__", .hook), ("__or__", .hook), ("__ror__", .hook), ("__ior__", .hook),
    ("__len__", .hook), ("__getitem__", .operation none ["x.__getitem__(y) <==> x[y]"]),
    ("__setitem__", .hook), ("__delitem__", .hook),
    ("__contains__", .operation (some "($self, key, /)")
      ["True if the dictionary has the specified key, else False."]),
    ("__sizeof__", .operation none ["D.__sizeof__() -> size of D in memory, in bytes"]),
    ("get", .operation (some "($self, key, default=None, /)")
      ["Return the value for key if key is in the dictionary, else default."]),
    ("setdefault", .operation (some "($self, key, default=None, /)") [
      "Insert key with a value of default if key is not in the dictionary.",
      "",
      "Return the value for key if key is in the dictionary, else default."]),
    ("pop", .operation (some "($self, key, default=<unrepresentable>, /)") [
      "D.pop(k[,d]) -> v, remove specified key and return the corresponding value.",
      "",
      "If the key is not found, return the default if given; otherwise,",
      "raise a KeyError."]),
    ("popitem", .operation (some "($self, /)") [
      "Remove and return a (key, value) pair as a 2-tuple.",
      "",
      "Pairs are returned in LIFO (last-in, first-out) order.",
      "Raises KeyError if the dict is empty."]),
    ("keys", .operation none ["D.keys() -> a set-like object providing a view on D's keys"]),
    ("items", .operation none ["D.items() -> a set-like object providing a view on D's items"]),
    ("values", .operation none ["D.values() -> an object providing a view on D's values"]),
    ("update", .operation none [
      "D.update([E, ]**F) -> None.  Update D from dict/iterable E and F.",
      "If E is present and has a .keys() method, then does:  for k in E: D[k] = E[k]",
      "If E is present and lacks a .keys() method, then does:  for k, v in E: D[k] = v",
      "In either case, this is followed by: for k in F:  D[k] = F[k]"]),
    ("fromkeys", .operationOnKind (some "($type, iterable, value=None, /)")
      ["Create a new dictionary with keys from iterable and values set to value."]),
    ("clear", .operation none ["D.clear() -> None.  Remove all items from D."]),
    ("copy", .operation none ["D.copy() -> a shallow copy of D"]),
    ("__reversed__", .operation (some "($self, /)")
      ["Return a reverse iterator over the dict keys."]),
    ("__class_getitem__", .operationOnKind none ["See PEP 585"]),
    ("__doc__", .value [
      "dict() -> new empty dictionary",
      "dict(mapping) -> new dictionary initialized from a mapping object's",
      "    (key, value) pairs",
      "dict(iterable) -> new dictionary initialized as if via:",
      "    d = \x7b\x7d",
      "    for k, v in iterable:",
      "        d[k] = v",
      "dict(**kwargs) -> new dictionary initialized with the name=value pairs",
      "    in the keyword argument list.  For example:  dict(one=1, two=2)"])]

/-- The pages of the contents of kinds. -/
def ofContents : List (String × Page) :=
  [("__new__", .maker), ("__repr__", .hook), ("__str__", .hook), ("__getattribute__", .hook),
    ("__lt__", .hook), ("__le__", .hook), ("__eq__", .hook), ("__ne__", .hook),
    ("__gt__", .hook), ("__ge__", .hook), ("__iter__", .hook), ("__or__", .hook),
    ("__ror__", .hook), ("__ior__", .hook), ("__len__", .hook), ("__getitem__", .hook),
    ("__contains__", .hook),
    ("get", .operation none ["D.get(k[,d]) -> D[k] if k in D, else d.  d defaults to None."]),
    ("keys", .operation none ["D.keys() -> a set-like object providing a view on D's keys"]),
    ("values", .operation none ["D.values() -> an object providing a view on D's values"]),
    ("items", .operation none ["D.items() -> a set-like object providing a view on D's items"]),
    ("copy", .operation none ["D.copy() -> a shallow copy of D"]),
    ("__class_getitem__", .operationOnKind none ["See PEP 585"]),
    ("__reversed__", .operation none ["D.__reversed__() -> reverse iterator"]),
    ("__doc__", .value []), ("__hash__", .value [])]

end VitaeShell.Template.Page
