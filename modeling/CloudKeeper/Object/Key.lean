import CloudKeeper.Json.Decoder
/-!
Keys of declared objects: a kind and a name that is unique within the kind. Keys are ordered by kind
and then by name, by code point.
-/
namespace CloudKeeper

/-- The key of a declared object (`ObjectKey`). -/
structure Key where
  kind : String
  name : String
  deriving DecidableEq, Repr, Inhabited

namespace Key

instance : Ord Key where
  compare := compareLex (compareOn Key.kind) (compareOn Key.name)

instance : Std.TransOrd Key :=
  inferInstanceAs (Std.TransCmp (compareLex (compareOn Key.kind) (compareOn Key.name)))

instance : Std.LawfulEqOrd Key where
  compare_self := by
    intro key
    show (compare key.kind key.kind).then (compare key.name key.name) = .eq
    simp only [Std.ReflCmp.compare_self, Ordering.then_eq_eq, and_self]
  eq_of_compare := by
    intro a b same
    simp only [compare, compareLex, compareOn, Ordering.then_eq_eq] at same
    obtain ⟨kinds, names⟩ := same
    obtain ⟨kind, name⟩ := a
    obtain ⟨kind', name'⟩ := b
    simp only [Key.mk.injEq]
    exact ⟨Std.LawfulEqOrd.eq_of_compare kinds, Std.LawfulEqOrd.eq_of_compare names⟩

/-- The key as text, kind and name joined by a slash (`ObjectKey::fmt`). -/
def text (key : Key) : String :=
  key.kind ++ "/" ++ key.name

/-- The key as a JSON value. -/
def toJson (key : Key) : Json.Value :=
  .object [("kind", .string key.kind), ("name", .string key.name)]

/-- How a key is read. -/
def decoder : Json.Decoder Key :=
  ((Json.Record.make Key.mk).field "kind" Json.Decoder.string
    |>.field "name" Json.Decoder.string).decoder

end Key

end CloudKeeper
