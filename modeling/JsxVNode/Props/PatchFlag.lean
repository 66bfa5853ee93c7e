/-!
# Patch flags

The hint a virtual node carries about what in it can change: a word of 32 bits with
one bit for each kind of change, or one of two negative values that stand for
themselves.
-/

namespace JsxVNode

/-- A word of change bits, read as a signed number. -/
structure PatchFlag where
  bits : BitVec 32
  deriving DecidableEq, Repr, Inhabited

namespace PatchFlag

/-- Nothing can change. -/
def none : PatchFlag := ⟨0⟩
/-- Text content. -/
def text : PatchFlag := ⟨1⟩
/-- The `class` property. -/
def classBinding : PatchFlag := ⟨2⟩
/-- The `style` property. -/
def styleBinding : PatchFlag := ⟨4⟩
/-- Other properties, which are listed beside the flag. -/
def props : PatchFlag := ⟨8⟩
/-- Properties whose names are not known; all of them are compared. -/
def fullProps : PatchFlag := ⟨16⟩
/-- Event handlers that have to be attached to prerendered markup. -/
def hydrateEvents : PatchFlag := ⟨32⟩
/-- A fragment whose children keep their order. -/
def stableFragment : PatchFlag := ⟨64⟩
/-- A fragment whose children have keys. -/
def keyedFragment : PatchFlag := ⟨128⟩
/-- A fragment whose children have no keys. -/
def unkeyedFragment : PatchFlag := ⟨256⟩
/-- Only references or directives have to be told of a change. -/
def needPatch : PatchFlag := ⟨512⟩
/-- Slots that come and go. -/
def dynamicSlots : PatchFlag := ⟨1024⟩
/-- A node that is never compared. -/
def hoisted : PatchFlag := ⟨-1⟩
/-- A node that is compared in full. -/
def bail : PatchFlag := ⟨-2⟩

/-- The single bits with their names, from the lowest. -/
def named : List (PatchFlag × String) :=
  [(text, "TEXT"), (classBinding, "CLASS"), (styleBinding, "STYLE"), (props, "PROPS"),
    (fullProps, "FULL_PROPS"), (hydrateEvents, "HYDRATE_EVENTS"),
    (stableFragment, "STABLE_FRAGMENT"), (keyedFragment, "KEYED_FRAGMENT"),
    (unkeyedFragment, "UNKEYED_FRAGMENT"), (needPatch, "NEED_PATCH"),
    (dynamicSlots, "DYNAMIC_SLOTS")]

/-- The two values that stand for themselves, with their names. -/
def sentinels : List (PatchFlag × String) := [(hoisted, "HOISTED"), (bail, "BAIL")]

/-- The flag of a given name; the flag without bits is called `NONE`. -/
def ofName? (name : String) : Option PatchFlag :=
  (((none, "NONE") :: named ++ sentinels).find? (·.2 == name)).map (·.1)

/-- The flag as a signed number. -/
def toInt (f : PatchFlag) : Int := f.bits.toInt

/-- Whether nothing can change. -/
def isEmpty (f : PatchFlag) : Bool := f == none

/-- Whether the flag is negative as a number. -/
def isNegative (f : PatchFlag) : Bool := f.bits.msb

instance : OrOp PatchFlag := ⟨fun f g => ⟨f.bits ||| g.bits⟩⟩

instance : AndOp PatchFlag := ⟨fun f g => ⟨f.bits &&& g.bits⟩⟩

/-- Whether every bit of `g` is set in `f`; a negative flag contains only itself. -/
def contains (f g : PatchFlag) : Bool :=
  if f.isNegative || g.isNegative then f == g else (f &&& g) == g

/-- The names of the bits that are set, from the lowest. -/
def names (f : PatchFlag) : List String :=
  match sentinels.find? (·.1 == f) with
  | some (_, name) => [name]
  | .none => (named.filter fun entry => f.contains entry.1).map (·.2)

/-- The names of the bits that are set, separated by commas. -/
def description (f : PatchFlag) : String := ", ".intercalate f.names

/-- The flag of a fragment's own list of children: children whose shape is unknown force a
full comparison, and several known ones keep their order. -/
def ofFragment (count : Nat) (unanalyzable : Bool) : PatchFlag :=
  if unanalyzable then bail
  else if count > 1 then stableFragment
  else none

end PatchFlag

end JsxVNode
