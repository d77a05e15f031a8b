import VitaeShell.Text.Quoted

/-!
# Pages of the manual

Everything that a kind of things brings along under a name has a page in the manual of that kind
(`Page`): how it is called, and what is said about it. Hooks, by which signs and the like work on
things, have the same page wherever they occur (`Page.hooks`).
-/

namespace VitaeShell.Template

/-- What a kind brings along under a name. -/
inductive Page where
  /-- A hook, by which a sign or the like works on things. -/
  | hook
  /-- An operation on things. -/
  | operation (call : Option String) (lines : List String)
  /-- An operation on the kind itself. -/
  | operationOnKind (call : Option String) (lines : List String)
  /-- The operation that makes things of the kind. -/
  | maker
  /-- An operation that needs neither a thing nor the kind. -/
  | loose (call : Option String) (lines : List String)
  /-- Something that is found out about a thing. -/
  | trait (lines : List String)
  /-- Something that is kept in a thing. -/
  | slot
  /-- A text, or nothing if it has no lines. -/
  | value (lines : List String)
deriving DecidableEq, Repr

namespace Page

/-- The text of lines, if there are any. -/
def text? (lines : List String) : Option String :=
  if lines.isEmpty then none else some (String.intercalate "\n" lines)

/-- The hooks: how each is called, and what is said about it. -/
def hooks : List (String × String × String) :=
  [("__repr__", "($self, /)", "Return repr(self)."),
    ("__hash__", "($self, /)", "Return hash(self)."),
    ("__str__", "($self, /)", "Return str(self)."),
    ("__getattribute__", "($self, name, /)", "Return getattr(self, name)."),
    ("__lt__", "($self, value, /)", "Return self<value."),
    ("__le__", "($self, value, /)", "Return self<=value."),
    ("__eq__", "($self, value, /)", "Return self==value."),
    ("__ne__", "($self, value, /)", "Return self!=value."),
    ("__gt__", "($self, value, /)", "Return self>value."),
    ("__ge__", "($self, value, /)", "Return self>=value."),
    ("__iter__", "($self, /)", "Implement iter(self)."),
    ("__mod__", "($self, value, /)", "Return self%value."),
    ("__rmod__", "($self, value, /)", "Return value%self."),
    ("__len__", "($self, /)", "Return len(self)."),
    ("__getitem__", "($self, key, /)", "Return self[key]."),
    ("__add__", "($self, value, /)", "Return self+value."),
    ("__mul__", "($self, value, /)", "Return self*value."),
    ("__rmul__", "($self, value, /)", "Return value*self."),
    ("__contains__", "($self, key, /)", "Return key in self."),
    ("__setattr__", "($self, name, value, /)", "Implement setattr(self, name, value)."),
    ("__delattr__", "($self, name, /)", "Implement delattr(self, name)."),
    ("__init__", "($self, /, *args, **kwargs)",
      "Initialize self.  See help(type(self)) for accurate signature."),
    ("__call__", "($self, /, *args, **kwargs)", "Call self as a function."),
    ("__or__", "($self, value, /)", "Return self|value."),
    ("__ror__", "($self, value, /)", "Return value|self."),
    ("__radd__", "($self, value, /)", "Return value+self."),
    ("__sub__", "($self, value, /)", "Return self-value."),
    ("__rsub__", "($self, value, /)", "Return value-self."),
    ("__divmod__", "($self, value, /)", "Return divmod(self, value)."),
    ("__rdivmod__", "($self, value, /)", "Return divmod(value, self)."),
    ("__pow__", "($self, value, mod=None, /)", "Return pow(self, value, mod)."),
    ("__rpow__", "($self, value, mod=None, /)", "Return pow(value, self, mod)."),
    ("__neg__", "($self, /)", "-self"),
    ("__pos__", "($self, /)", "+self"),
    ("__abs__", "($self, /)", "abs(self)"),
    ("__bool__", "($self, /)", "True if self else False"),
    ("__invert__", "($self, /)", "~self"),
    ("__lshift__", "($self, value, /)", "Return self<<value."),
    ("__rlshift__", "($self, value, /)", "Return value<<self."),
    ("__rshift__", "($self, value, /)", "Return self>>value."),
    ("__rrshift__", "($self, value, /)", "Return value>>self."),
    ("__and__", "($self, value, /)", "Return self&value."),
    ("__rand__", "($self, value, /)", "Return value&self."),
    ("__xor__", "($self, value, /)", "Return self^value."),
    ("__rxor__", "($self, value, /)", "Return value^self."),
    ("__int__", "($self, /)", "int(self)"),
    ("__float__", "($self, /)", "float(self)"),
    ("__floordiv__", "($self, value, /)", "Return self//value."),
    ("__rfloordiv__", "($self, value, /)", "Return value//self."),
    ("__truediv__", "($self, value, /)", "Return self/value."),
    ("__rtruediv__", "($self, value, /)", "Return value/self."),
    ("__index__", "($self, /)",
      "Return self converted to an integer, if self is suitable for use as an index into a list."),
    ("__ior__", "($self, value, /)", "Return self|=value."),
    ("__setitem__", "($self, key, value, /)", "Set self[key] to value."),
    ("__delitem__", "($self, key, /)", "Delete self[key]."),
    ("__get__", "($self, instance, owner=None, /)",
      "Return an attribute of instance, which is of type owner."),
    ("__set__", "($self, instance, value, /)", "Set an attribute of instance to value."),
    ("__delete__", "($self, instance, /)", "Delete an attribute of instance.")]

/-- How what has a page is called, as far as it is said. -/
def call? (name : String) : Page → Option String
  | hook => (hooks.lookup name).map (·.1)
  | operation call _ | operationOnKind call _ | loose call _ => call
  | maker => some "($type, *args, **kwargs)"
  | trait _ | slot | value _ => none

/-- What is said about what has a page. -/
def words? (name : String) : Page → Option String
  | hook => (hooks.lookup name).map (·.2)
  | operation _ lines | operationOnKind _ lines | loose _ lines => text? lines
  | trait lines | value lines => text? lines
  | maker => some "Create and return a new object.  See help(type) for accurate signature."
  | slot => none

end Page

end VitaeShell.Template
