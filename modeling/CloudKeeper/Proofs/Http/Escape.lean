import CloudKeeper.Json.Token
import CloudKeeper.Proofs.Http.Url
import CloudKeeper.Proofs.Text.Utf8
/-!
What a URL says of the texts that it was made of. A service takes octets that are written with percent signs back,
so a text without a percent sign of its own is read as it was, whatever in it had to be encoded. Two URLs of paths
that differ in one segment are therefore told apart, also where the path has come to stand in a query or in a
fragment because one begins before it.
-/
namespace CloudKeeper.Http

/-! ## Percent signs -/

private theorem hexValue_upperHex : ∀ n < 16, Json.hexValue? (upperHex n) = some n := by decide

/-- The digits behind a percent sign are those of the octet. -/
theorem percent_digits (b : UInt8) : ∃ first second high low, percent b = ['%', first, second] ∧
    Json.hexValue? first = some high ∧ Json.hexValue? second = some low ∧ UInt8.ofNat (high * 16 + low) = b := by
  have small : b.toNat < 256 := b.toNat_lt
  have whole : b.toNat / 16 * 16 + b.toNat % 16 = b.toNat := by omega
  refine ⟨_, _, b.toNat / 16, b.toNat % 16, rfl, ?_, ?_, by rw [whole, UInt8.ofNat_toNat]⟩
  · exact hexValue_upperHex _ (by omega)
  · exact hexValue_upperHex _ (by omega)

/-- The octets that a text stands for in which some are written with percent signs. -/
def unescape : List Char → List UInt8
  | [] => []
  | '%' :: a :: b :: rest =>
    match Json.hexValue? a, Json.hexValue? b with
    | some high, some low => UInt8.ofNat (high * 16 + low) :: unescape rest
    | _, _ => 0x25 :: unescape (a :: b :: rest)
  | c :: rest => String.utf8EncodeChar c ++ unescape rest

private theorem unescape_percent (b : UInt8) (rest : List Char) :
    unescape (percent b ++ rest) = b :: unescape rest := by
  obtain ⟨first, second, high, low, written, one, two, whole⟩ := percent_digits b
  simp only [written, List.cons_append, List.nil_append, unescape, one, two, whole]

private theorem unescape_percents (bs : List UInt8) (rest : List Char) :
    unescape (bs.flatMap percent ++ rest) = bs ++ unescape rest := by
  induction bs with
  | nil => rfl
  | cons b others ih => rw [List.flatMap_cons, List.append_assoc, unescape_percent, ih, List.cons_append]

/-- An encoded text is read as it was if it had no percent sign. -/
theorem unescape_encode (forbidden : Char → Bool) {cs : List Char} (unmarked : '%' ∉ cs) :
    unescape (encode forbidden cs) = Text.Utf8.encode cs := by
  induction cs with
  | nil => rfl
  | cons c rest ih =>
    obtain ⟨other, unmarked⟩ := not_or.1 (mt List.mem_cons.2 unmarked)
    have octets : Text.Utf8.encode (c :: rest) = String.utf8EncodeChar c ++ Text.Utf8.encode rest := rfl
    rw [encode, List.flatMap_cons, octets, ← ih unmarked]
    by_cases encoded : forbidden c = true
    · rw [if_pos encoded, percentChar, unescape_percents, Text.Utf8.encode, List.flatMap_singleton, encode]
    · rw [if_neg encoded, List.singleton_append, unescape, encode]
      exact fun _ _ _ sign _ => other sign.symm

/-- Texts without percent signs are told apart once they are encoded. -/
theorem encode_inj {forbidden : Char → Bool} {cs ds : List Char} (one : '%' ∉ cs) (two : '%' ∉ ds)
    (same : encode forbidden cs = encode forbidden ds) : cs = ds := by
  have octets : Text.Utf8.encode cs = Text.Utf8.encode ds := by
    rw [← unescape_encode forbidden one, same, unescape_encode forbidden two]
  have read : cs.map some = ds.map some := by
    rw [← Text.Utf8.decode_encode, octets, Text.Utf8.decode_encode]
  exact List.map_injective_iff.2 (fun _ _ => Option.some.inj) read

/-! ## Segments -/

/-- A text without marks of a URL, dots and control characters. -/
def Unmarked (cs : List Char) : Prop :=
  ∀ c ∈ cs, c ∉ ['/', '\\', '?', '#', '.', '%'] ∧ 0x20 ≤ c.toNat ∧ c.toNat ≠ 0x7F

instance (cs : List Char) : Decidable (Unmarked cs) := List.decidableBAll _ cs

namespace Unmarked

variable {cs : List Char}

private theorem lacks (unmarked : Unmarked cs) {mark : Char} (marks : mark ∈ ['/', '\\', '?', '#', '.', '%']) :
    mark ∉ cs := fun member => (unmarked mark member).1 marks

theorem pathOnly (unmarked : Unmarked cs) : PathOnly cs :=
  ⟨unmarked.lacks (by decide), unmarked.lacks (by decide)⟩

theorem isSegment (unmarked : Unmarked cs) : IsSegment cs := by
  refine ⟨fun c member => ?_, ?_⟩
  · have own := (unmarked c member).1
    simp only [List.mem_cons, not_or] at own
    simp [isSlash, own]
  · cases cs with
    | nil => exact ⟨rfl, rfl⟩
    | cons c rest =>
      have own := (unmarked c List.mem_cons_self).1
      simp only [List.mem_cons, not_or] at own
      simp [isDots, own]

theorem filter_isDropped (unmarked : Unmarked cs) : cs.filter (!isDropped ·) = cs := by
  refine List.filter_eq_self.2 fun c member => ?_
  have visible := (unmarked c member).2.1
  simp only [isDropped, Bool.not_eq_true', Bool.or_eq_false_iff, beq_eq_false_iff_ne]
  refine ⟨⟨?_, ?_⟩, ?_⟩ <;> rintro rfl <;> exact absurd visible (by decide)

end Unmarked

/-- A segment and another one behind it. -/
def between (last s : List Char) : List Char := '/' :: (s ++ '/' :: last)

namespace Parts

/-- Where a text comes to stand that is put behind another one: in the fragment, in the query or in the path. -/
private theorem of_behind (front : List Char) :
    ('#' ∈ front ∧ ∃ path query before, ∀ behind,
      Parts.of (front ++ behind) = ⟨path, query, some (encode isForbiddenInFragment (before ++ behind))⟩) ∨
    (∃ path before, ∀ behind, PathOnly behind →
      Parts.of (front ++ behind) = ⟨path, some (encode isForbiddenInQuery (before ++ behind)), none⟩) ∨
    (∀ behind, PathOnly behind → Parts.of (front ++ behind) = ⟨encodePath (front ++ behind), none, none⟩) := by
  by_cases fragment : '#' ∈ front
  · obtain ⟨first, second, rfl, unmarked⟩ := List.eq_append_cons_of_mem fragment
    refine .inl ⟨fragment, encodePath (splitAt? '?' first).1, (splitAt? '?' first).2.map (encode isForbiddenInQuery),
      second, fun behind => ?_⟩
    rw [List.append_assoc, List.cons_append, Parts.of, splitAt?_of_marked unmarked]
    rfl
  have whole {behind : List Char} (only : PathOnly behind) :
      splitAt? '#' (front ++ behind) = (front ++ behind, none) :=
    splitAt?_of_unmarked fun member => (List.mem_append.1 member).elim fragment only.2
  by_cases query : '?' ∈ front
  · obtain ⟨first, second, rfl, unmarked⟩ := List.eq_append_cons_of_mem query
    refine .inr (.inl ⟨encodePath first, second, fun behind only => ?_⟩)
    have halves : splitAt? '?' ((first ++ '?' :: second) ++ behind) = (first, some (second ++ behind)) := by
      rw [List.append_assoc, List.cons_append, splitAt?_of_marked unmarked]
    simp only [Parts.of, whole only, halves, Option.map_some, Option.map_none]
  · refine .inr (.inr fun behind only => ?_)
    have path : '?' ∉ front ++ behind := fun member => (List.mem_append.1 member).elim query only.1
    simp only [Parts.of, whole only, splitAt?_of_unmarked path, Option.map_none]

/-- What stands between the same texts is told apart once it is encoded together with them. -/
private theorem between_told {forbidden : Char → Bool} {before last s t : List Char} (one : Unmarked s)
    (two : Unmarked t) (same : encode forbidden (before ++ between last s) =
      encode forbidden (before ++ between last t)) : s = t := by
  have parted (u : List Char) : encode forbidden (before ++ between last u) =
      encode forbidden (before ++ ['/']) ++ (encode forbidden u ++ encode forbidden ('/' :: last)) := by
    simp only [between, ← encode_append, List.append_assoc, List.singleton_append]
  -- The text before may have percent signs of its own, so it is dropped before the encoding is taken back.
  rw [parted, parted] at same
  exact encode_inj (one.lacks (by decide)) (two.lacks (by decide))
    (List.append_cancel_right (List.append_cancel_left same))

/-- A segment is told by path and query, or by the fragment if one begins before the segment. -/
private theorem segment_told {front last s t : List Char} (filled : front ≠ []) (named : IsName last)
    (one : Unmarked s) (two : Unmarked t)
    (sent : { Parts.of (front ++ between last s) with fragment := none : Parts }.text =
      { Parts.of (front ++ between last t) with fragment := none : Parts }.text)
    (kept : '#' ∈ front →
      (Parts.of (front ++ between last s)).fragment = (Parts.of (front ++ between last t)).fragment) : s = t := by
  have only {u : List Char} (unmarked : Unmarked u) : PathOnly (between last u) := by
    simp only [between, pathOnly_slash, pathOnly_append]
    exact ⟨unmarked.pathOnly, named.pathOnly⟩
  -- Only in a path is the segment a segment; in a fragment and in a query it is text like any other.
  rcases of_behind front with ⟨within, path, query, before, own⟩ | ⟨path, before, own⟩ | own
  · have same := kept within
    rw [own, own] at same
    exact between_told one two (Option.some.inj same)
  · rw [own _ (only one), own _ (only two)] at sent
    simp only [Parts.text, Option.map_some, Option.getD_some, Option.map_none, Option.getD_none, List.append_nil,
      List.append_cancel_left_eq, List.cons.injEq, true_and] at sent
    exact between_told one two sent
  · rw [own _ (only one), own _ (only two)] at sent
    obtain ⟨path, put⟩ := encodePath_segments filled
    have written {u : List Char} (unmarked : Unmarked u) :=
      put [u, last] (by simp) (by simpa using ⟨unmarked.isSegment, named.isSegment⟩)
    simp only [List.flatMap_cons, List.flatMap_nil, List.map_cons, List.map_nil, List.append_nil,
      List.cons_append] at written
    simp only [Parts.text, Option.map_none, Option.getD_none, List.append_nil, between, written one, written two,
      List.append_cancel_left_eq, List.append_cancel_right_eq, List.cons.injEq, true_and] at sent
    exact encode_inj (one.lacks (by decide)) (two.lacks (by decide)) sent

end Parts

/-- Of two URLs whose paths differ in one segment the path and the query tell which segment it is, unless a fragment
begins before the path; then the fragment does. -/
theorem Url.segment_told {before : List Char} {first : Char} {word version last s t : List Char}
    (service : IsName (first :: word)) (earlier : IsName version) (named : IsName last) (one : Unmarked s)
    (two : Unmarked t) {url url' : Url}
    (parsed : Url.parse? (String.ofList (before ++ '/' :: first :: (word ++ '/' :: (version ++ between last s)))) =
      some url)
    (parsed' : Url.parse? (String.ofList (before ++ '/' :: first :: (word ++ '/' :: (version ++ between last t)))) =
      some url')
    (sent : url.target = url'.target) (kept : '#' ∈ before → url.parts.fragment = url'.parts.fragment) : s = t := by
  obtain ⟨found?, front, source, reads⟩ := parse?_front before service
  have read {u : List Char} (unmarked : Unmarked u) :
      Url.parse? (String.ofList (before ++ '/' :: first :: (word ++ '/' :: (version ++ between last u)))) =
        found?.map fun origin => ofOrigin origin (.of ((front ++ '/' :: version) ++ between last u)) := by
    have ends : EndsSolid ('/' :: (version ++ between last u)) := by
      have solid := named.endsSolid ('/' :: (version ++ '/' :: u))
      simpa [between] using solid
    rw [reads _ ends, between, List.filter_append, filter_slash, List.filter_append, filter_slash,
      earlier.filter_isDropped, unmarked.filter_isDropped, named.filter_isDropped, List.append_assoc, List.cons_append]
  obtain ⟨origin, -, rfl⟩ := Option.map_eq_some_iff.1 ((read one).symm.trans parsed)
  obtain ⟨origin', -, rfl⟩ := Option.map_eq_some_iff.1 ((read two).symm.trans parsed')
  refine Parts.segment_told (by simp) named one two (String.ofList_injective sent) fun within => kept ?_
  rcases List.mem_append.1 within with old | added
  · have others : PathOnly ('/' :: first :: word) := pathOnly_slash.2 service.pathOnly
    exact (source _ old).resolve_right others.2
  · exact absurd added (pathOnly_slash.2 earlier.pathOnly).2

end CloudKeeper.Http
