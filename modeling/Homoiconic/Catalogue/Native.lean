import Homoiconic.Arity

/-!
# Native callables

A program that embeds the interpreter supplies callables of its own.  They come in the six shapes in
which a callable can be supplied:

* typed operations, whose arguments are checked against a signature;
* variadic operations, typed too, whose last parameter takes the remaining arguments;
* free operations, which receive the positional and the keyword arguments as they are;
* slice operations, which receive positional arguments only;
* expanders, which receive the argument expressions unevaluated;
* stack operations, which receive the whole stack.

Interpretation is a closed definition, so the callables it may meet are listed here by name; what
each of them does is defined where its shape is interpreted.  Two callables made from the same
native at different times are different callables.  The identity that tells them apart is kept with
the callable, not with the native.
-/

namespace Homoiconic

/-- A native operation of a fixed number of typed arguments. -/
inductive TypedNative where
  | seven | inc | add | sub | mul | gt | safeDiv | sum3 | list4 | list5
  | negate | shout | own | unit | sumList | joinList | sizeList
deriving DecidableEq

namespace TypedNative

/-- The name a typed native goes by. -/
def name : TypedNative → String
  | .seven => "seven"
  | .inc => "inc"
  | .add => "add"
  | .sub => "sub"
  | .mul => "mul"
  | .gt => "gt"
  | .safeDiv => "safe_div"
  | .sum3 => "sum3"
  | .list4 => "list4"
  | .list5 => "list5"
  | .negate => "negate"
  | .shout => "shout"
  | .own => "own"
  | .unit => "unit"
  | .sumList => "sum_list"
  | .joinList => "join_list"
  | .sizeList => "size_list"

/-- All typed natives. -/
def all : List TypedNative :=
  [.seven, .inc, .add, .sub, .mul, .gt, .safeDiv, .sum3, .list4, .list5, .negate, .shout, .own,
    .unit, .sumList, .joinList, .sizeList]

/-- The typed native of a name. -/
def ofName? (name : String) : Option TypedNative := all.find? fun n => n.name == name

end TypedNative

/-- A native operation whose last parameter takes the remaining arguments. -/
inductive VariadicNative where
  | vsum | vlist | vcat | vjoin | vbetween | vmix
deriving DecidableEq

namespace VariadicNative

/-- The name a variadic native goes by. -/
def name : VariadicNative → String
  | .vsum => "vsum"
  | .vlist => "vlist"
  | .vcat => "vcat"
  | .vjoin => "vjoin"
  | .vbetween => "vbetween"
  | .vmix => "vmix"

/-- All variadic natives. -/
def all : List VariadicNative := [.vsum, .vlist, .vcat, .vjoin, .vbetween, .vmix]

/-- The variadic native of a name. -/
def ofName? (name : String) : Option VariadicNative := all.find? fun n => n.name == name

end VariadicNative

/-- A native operation of positional and keyword arguments as they are. -/
inductive FreeNative where
  | pack | total | first | fail | log
deriving DecidableEq

namespace FreeNative

/-- The name a free native goes by. -/
def name : FreeNative → String
  | .pack => "pack"
  | .total => "total"
  | .first => "first"
  | .fail => "fail"
  | .log => "log"

/-- All free natives. -/
def all : List FreeNative := [.pack, .total, .first, .fail, .log]

/-- The free native of a name. -/
def ofName? (name : String) : Option FreeNative := all.find? fun n => n.name == name

end FreeNative

/-- A native operation of positional arguments only. -/
inductive SliceNative where
  | count | last
deriving DecidableEq

namespace SliceNative

/-- The name a slice native goes by. -/
def name : SliceNative → String
  | .count => "count"
  | .last => "last"

/-- All slice natives. -/
def all : List SliceNative := [.count, .last]

/-- The slice native of a name. -/
def ofName? (name : String) : Option SliceNative := all.find? fun n => n.name == name

end SliceNative

/-- A native operation of evaluated arguments, in one of its four shapes. -/
inductive NativeOperation where
  | typed (native : TypedNative)
  /-- The arity bounds the total number of arguments. -/
  | variadic (native : VariadicNative) (arity : Arity)
  | free (native : FreeNative)
  | slice (native : SliceNative)
deriving DecidableEq

/-- A native transformation of a call. -/
inductive NativeExpander where
  | first | quote | twice | spy | fail | letLocal | assign
deriving DecidableEq

namespace NativeExpander

/-- The name a native expander goes by. -/
def name : NativeExpander → String
  | .first => "m_first"
  | .quote => "m_quote"
  | .twice => "m_twice"
  | .spy => "m_spy"
  | .fail => "m_fail"
  | .letLocal => "m_local"
  | .assign => "m_set"

/-- All native expanders. -/
def all : List NativeExpander := [.first, .quote, .twice, .spy, .fail, .letLocal, .assign]

/-- The native expander of a name. -/
def ofName? (name : String) : Option NativeExpander := all.find? fun n => n.name == name

end NativeExpander

/-- A native operation on the whole stack. -/
inductive StackNative where
  | reverse | clear | depth | broken | forever
deriving DecidableEq

namespace StackNative

/-- The name a stack native goes by. -/
def name : StackNative → String
  | .reverse => "reverse"
  | .clear => "clear"
  | .depth => "depth"
  | .broken => "broken"
  | .forever => "forever"

/-- All stack natives. -/
def all : List StackNative := [.reverse, .clear, .depth, .broken, .forever]

/-- The stack native of a name. -/
def ofName? (name : String) : Option StackNative := all.find? fun n => n.name == name

end StackNative

end Homoiconic
