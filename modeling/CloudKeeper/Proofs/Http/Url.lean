import CloudKeeper.Http.Url
import Mathlib.Data.List.Basic
import Mathlib.Data.List.TakeWhile
/-!
URLs of paths that differ in their end only. What stands before the path decides the scheme, the host and the
endpoint, so such URLs have these in common; and where neither a query nor a fragment begins, a segment that is
added to the path is added to that of the URL.
-/
namespace CloudKeeper.Http

/-! ## Splitting texts -/

section Lists

variable {p : Char → Bool} {stop : Char}

private theorem dropWhile_stop (stops : p stop = false) (before behind : List Char) :
    (before ++ stop :: behind).dropWhile p = before.dropWhile p ++ stop :: behind := by
  induction before with
  | nil => simp [stops]
  | cons c rest ih => by_cases drops : p c = true <;> simp [drops, ih]

private theorem takeWhile_stop (stops : p stop = false) (before behind : List Char) :
    (before ++ stop :: behind).takeWhile p = before.takeWhile p := by
  induction before with
  | nil => simp [stops]
  | cons c rest ih => by_cases takes : p c = true <;> simp [takes, ih]

end Lists

private theorem others_of_unmarked {mark : Char} {cs : List Char} (unmarked : mark ∉ cs) :
    ∀ c ∈ cs, (c != mark) = true :=
  fun _ member => bne_iff_ne.2 (ne_of_mem_of_not_mem member unmarked)

/-- A text in which a mark does not stand is not split at it. -/
theorem splitAt?_of_unmarked {mark : Char} {cs : List Char} (unmarked : mark ∉ cs) :
    splitAt? mark cs = (cs, none) := by
  have others := others_of_unmarked unmarked
  rw [splitAt?, List.takeWhile_eq_self_iff.2 others, List.dropWhile_eq_nil_iff.2 others]

/-- A text is split at the first of its marks. -/
theorem splitAt?_of_marked {mark : Char} {before : List Char} (unmarked : mark ∉ before) (behind : List Char) :
    splitAt? mark (before ++ mark :: behind) = (before, some behind) := by
  have others := others_of_unmarked unmarked
  rw [splitAt?, List.takeWhile_append_of_pos others, List.dropWhile_append_of_pos others]
  simp

/-- A text ends in something that is no padding. -/
def EndsSolid (cs : List Char) : Prop := ∃ front last, cs = front ++ [last] ∧ isPadding last = false

/-- A text that ends solid is trimmed in front only. -/
private theorem trim_eq {before behind : List Char} {stop : Char} (stops : isPadding stop = false)
    (solid : EndsSolid (stop :: behind)) :
    trim (before ++ stop :: behind) = before.dropWhile isPadding ++ stop :: behind := by
  obtain ⟨front, last, split, ends⟩ := solid
  rw [trim, dropWhile_stop stops, split, ← List.append_assoc, List.reverse_append, List.reverse_singleton,
    List.singleton_append, List.dropWhile_cons_of_neg (by simp [ends]), List.reverse_cons, List.reverse_reverse]

/-- The name of a scheme has no slash. -/
private theorem ofName?_of_slash {name : List Char} (slash : '/' ∈ name) : Scheme.ofName? name = none := by
  have lowered : '/' ∈ (String.ofList (name.map Char.toLower)).toList := by
    rw [String.toList_ofList]
    exact List.mem_map.2 ⟨'/', slash, rfl⟩
  unfold Scheme.ofName?
  split
  case h_1 same =>
    rw [same] at lowered
    exact absurd lowered (by decide)
  case h_2 same =>
    rw [same] at lowered
    exact absurd lowered (by decide)
  case h_3 => rfl

theorem filter_slash (cs : List Char) :
    ('/' :: cs).filter (!isDropped ·) = '/' :: cs.filter (!isDropped ·) := rfl

/-! ## Paths -/

/-- A segment that stays as it is: no slash parts it, nothing in it is encoded, and it is not one of dots. -/
structure IsName (s : List Char) : Prop where
  whole : ∀ c ∈ s, Url.endsAuthority c = false
  plain : ∀ c ∈ s, isForbiddenInPath c = false
  dotless : isDots 1 s = false ∧ isDots 2 s = false

private theorem isName_iff {s : List Char} :
    IsName s ↔ (s.all fun c => !Url.endsAuthority c && !isForbiddenInPath c) = true ∧
      isDots 1 s = false ∧ isDots 2 s = false := by
  simp only [List.all_eq_true, Bool.and_eq_true, Bool.not_eq_true']
  refine ⟨fun named => ⟨fun c member => ⟨named.whole c member, named.plain c member⟩, named.dotless⟩, ?_⟩
  exact fun ⟨each, dotless⟩ => ⟨fun c member => (each c member).1, fun c member => (each c member).2, dotless⟩

instance (s : List Char) : Decidable (IsName s) := decidable_of_iff _ isName_iff.symm

/-- A text in which neither a query nor a fragment begins. -/
def PathOnly (cs : List Char) : Prop := '?' ∉ cs ∧ '#' ∉ cs

theorem pathOnly_append {cs ds : List Char} : PathOnly (cs ++ ds) ↔ PathOnly cs ∧ PathOnly ds := by
  simp only [PathOnly, List.mem_append, not_or, and_and_and_comm]

theorem pathOnly_slash {cs : List Char} : PathOnly ('/' :: cs) ↔ PathOnly cs := by simp [PathOnly]

namespace IsName

variable {s : List Char}

theorem unparted (named : IsName s) : ∀ c ∈ s, isSlash c = false := fun c member => by
  have whole := named.whole c member
  simp only [Url.endsAuthority, Bool.or_eq_false_iff] at whole
  exact whole.1.1

theorem pathOnly (named : IsName s) : PathOnly s := by
  constructor
  · exact fun member => absurd (named.whole _ member) (by decide)
  · exact fun member => absurd (named.whole _ member) (by decide)

/-- What stays as it is is neither dropped nor cut off. -/
private theorem visible (named : IsName s) {c : Char} (member : c ∈ s) :
    isPadding c = false ∧ isDropped c = false := by
  have plain := named.plain c member
  simp only [isForbiddenInPath, isForbidden, Bool.or_eq_false_iff, decide_eq_false_iff_not] at plain
  refine ⟨decide_eq_false plain.1.1, ?_⟩
  simp only [isDropped, Bool.or_eq_false_iff, beq_eq_false_iff_ne]
  refine ⟨⟨?_, ?_⟩, ?_⟩ <;> rintro rfl <;> exact plain.1.1 (by decide)

theorem filter_isDropped (named : IsName s) : s.filter (!isDropped ·) = s :=
  List.filter_eq_self.2 fun _ member => by simp [(named.visible member).2]

theorem endsSolid (named : IsName s) (before : List Char) : EndsSolid (before ++ '/' :: s) := by
  rcases List.eq_nil_or_concat s with rfl | ⟨front, last, rfl⟩
  · exact ⟨before, '/', rfl, rfl⟩
  · exact ⟨before ++ '/' :: front, last, by simp, (named.visible (by simp)).1⟩

end IsName

/-- What is kept of some segments does not depend on those behind them, if there are any. -/
private theorem withoutDots_append (front : List (List Char)) (kept : List (List Char)) :
    ∃ kept', ∀ rest ≠ [], withoutDots kept (front ++ rest) = withoutDots kept' rest := by
  induction front generalizing kept with
  | nil => exact ⟨kept, fun _ _ => rfl⟩
  | cons s front ih =>
    obtain ⟨kept', same⟩ := ih (if isDots 2 s then kept.tail else if isDots 1 s then kept else s :: kept)
    refine ⟨kept', fun rest filled => ?_⟩
    have more : (front ++ rest).isEmpty = false := by simp [filled]
    rw [List.cons_append, withoutDots, more, Bool.false_and, if_neg Bool.false_ne_true]
    exact same rest filled

/-- A segment that is kept wherever it stands: no slash parts it, and it is not one of dots. -/
structure IsSegment (s : List Char) : Prop where
  unparted : ∀ c ∈ s, isSlash c = false
  dotless : isDots 1 s = false ∧ isDots 2 s = false

theorem IsName.isSegment {s : List Char} (named : IsName s) : IsSegment s := ⟨named.unparted, named.dotless⟩

private theorem withoutDots_segments {segments : List (List Char)} (kept : List (List Char))
    (each : ∀ s ∈ segments, IsSegment s) : withoutDots kept segments = kept.reverse ++ segments := by
  induction segments generalizing kept with
  | nil => simp [withoutDots]
  | cons s rest ih =>
    have dotless := (each s List.mem_cons_self).dotless
    simp [withoutDots, dotless, ih (s :: kept) fun t member => each t (List.mem_cons_of_mem _ member)]

private theorem pieces_segments (before : List Char) {segments : List (List Char)}
    (each : ∀ s ∈ segments, IsSegment s) :
    Text.pieces isSlash (before ++ segments.flatMap ('/' :: ·)) = Text.pieces isSlash before ++ segments := by
  induction segments generalizing before with
  | nil => simp
  | cons s rest ih =>
    have slash : isSlash '/' = true := rfl
    have first := Text.pieces_of_unmarked (each s List.mem_cons_self).unparted
    have others := ih s fun t member => each t (List.mem_cons_of_mem _ member)
    rw [List.flatMap_cons, List.cons_append, Text.pieces_append_mark slash, others, first,
      List.singleton_append]

theorem encode_append (forbidden : Char → Bool) (cs ds : List Char) :
    encode forbidden (cs ++ ds) = encode forbidden cs ++ encode forbidden ds := List.flatMap_append

private theorem encode_segments (segments : List (List Char)) :
    encode isForbiddenInPath (segments.flatMap ('/' :: ·)) =
      (segments.map (encode isForbiddenInPath)).flatMap ('/' :: ·) := by
  induction segments with
  | nil => rfl
  | cons s rest ih =>
    rw [List.flatMap_cons, List.map_cons, List.flatMap_cons, encode_append, ih]
    rfl

private theorem encode_name {s : List Char} (named : IsName s) : encode isForbiddenInPath s = s := by
  have same : s.flatMap (fun c => if isForbiddenInPath c then percentChar c else [c]) = s.flatMap ([·]) :=
    List.flatMap_congr fun c member => by rw [named.plain c member, if_neg Bool.false_ne_true]
  rw [encode, same, List.flatMap_singleton']

/-- Segments that are put behind a text are put behind whatever has become of the text in the path of the URL. -/
theorem encodePath_segments {front : List Char} (filled : front ≠ []) :
    ∃ path, ∀ segments ≠ [], (∀ s ∈ segments, IsSegment s) →
      encodePath (front ++ segments.flatMap ('/' :: ·)) =
        path ++ (segments.map (encode isForbiddenInPath)).flatMap ('/' :: ·) := by
  obtain ⟨mark, front, rfl⟩ := List.exists_cons_of_ne_nil filled
  obtain ⟨kept, same⟩ := withoutDots_append (Text.pieces isSlash front) []
  refine ⟨encode isForbiddenInPath (kept.reverse.flatMap ('/' :: ·)), fun segments present each => ?_⟩
  rw [encodePath, List.cons_append, List.tail_cons, pieces_segments front each, same _ present,
    withoutDots_segments kept each, List.flatMap_append, encode_append, encode_segments segments]

/-- A segment that is put behind one that stays is put behind it in the path of the URL. -/
private theorem encodePath_append {front : List Char} (filled : front ≠ []) {first second : List Char}
    (one : IsName first) (two : IsName second) :
    encodePath (front ++ '/' :: (first ++ '/' :: second)) = encodePath (front ++ '/' :: first) ++ '/' :: second := by
  obtain ⟨path, put⟩ := encodePath_segments filled
  have shorter := put [first] (by simp) (by simpa using one.isSegment)
  have longer := put [first, second] (by simp) (by simpa using ⟨one.isSegment, two.isSegment⟩)
  simp only [List.flatMap_cons, List.flatMap_nil, List.map_cons, List.map_nil, List.append_nil, List.cons_append,
    encode_name one, encode_name two] at shorter longer
  rw [shorter, longer, List.append_assoc, List.cons_append]

/-- A segment that is put behind a path without a query and a fragment is put behind the path of the URL. -/
private theorem Parts.of_append {front : List Char} (filled : front ≠ []) {first second : List Char}
    (one : IsName first) (two : IsName second) (path : PathOnly (front ++ '/' :: (first ++ '/' :: second))) :
    ∃ path, Parts.of (front ++ '/' :: first) = ⟨path, none, none⟩ ∧
      Parts.of (front ++ '/' :: (first ++ '/' :: second)) = ⟨path ++ '/' :: second, none, none⟩ := by
  have whole {cs : List Char} (path : PathOnly cs) : Parts.of cs = ⟨encodePath cs, none, none⟩ := by
    simp only [Parts.of, splitAt?_of_unmarked path.1, splitAt?_of_unmarked path.2, Option.map_none]
  have shorter : PathOnly (front ++ '/' :: first) := by
    simp only [pathOnly_append, pathOnly_slash] at path ⊢
    exact ⟨path.1, path.2.1⟩
  exact ⟨encodePath (front ++ '/' :: first), whole shorter,
    (whole path).trans (by rw [encodePath_append filled one two])⟩

/-! ## Reading URLs -/

/-- A base without its trailing slashes. -/
def stem (base : String) : List Char := (base.toList.reverse.dropWhile (· == '/')).reverse

theorem join_eq (base path : String) : join base path = String.ofList (stem base ++ path.toList) := by
  rw [← String.toList_inj]
  simp [join, stem, String.toList_append]

theorem mem_of_mem_stem {base : String} {c : Char} (member : c ∈ stem base) : c ∈ base.toList :=
  List.mem_reverse.1 ((List.dropWhile_sublist _).subset (List.mem_reverse.1 member))

/-- What of a URL is decided before its path. -/
structure Origin where
  scheme : Scheme
  host : List Char
  endpoint : Option Nat

namespace Url

/-- The origin of a URL. -/
def origin (u : Url) : Origin := ⟨u.scheme, u.host, u.endpoint⟩

/-- The URL of an origin with some parts. -/
def ofOrigin (origin : Origin) (parts : Parts) : Url := ⟨origin.scheme, origin.host, origin.endpoint, parts⟩

/-- A text with a slash before its first colon is no URL. -/
private theorem parse?_of_slash {text : String} {bare behind : List Char}
    (read : (trim text.toList).filter (!isDropped ·) = bare ++ '/' :: behind) (unnamed : ':' ∉ bare) :
    parse? text = none := by
  have slash : '/' ∈ (splitAt? ':' (bare ++ '/' :: behind)).1 := by
    simp [splitAt?, List.takeWhile_append_of_pos (others_of_unmarked unnamed)]
  unfold parse?
  rw [read]
  generalize splitAt? ':' (bare ++ '/' :: behind) = halves at slash ⊢
  obtain ⟨name, rest?⟩ := halves
  cases rest? with
  | none => rfl
  | some rest => simp only [ofName?_of_slash slash, Option.bind_eq_bind, Option.bind_none]

/-- The origin that a scheme's name and the text up to a path decide. -/
def origin? (name within : List Char) : Option Origin := do
  let scheme ← Scheme.ofName? name
  let (host, digits) ← host? (afterLast '@' (within.takeWhile (!endsAuthority ·)))
  let endpoint ← endpoint? scheme digits
  return ⟨scheme, host, endpoint⟩

private theorem parse?_of_colon {text : String} {name rest within path : List Char}
    (read : (trim text.toList).filter (!isDropped ·) = name ++ ':' :: rest) (unmarked : ':' ∉ name)
    (located : rest.dropWhile isSlash = within ++ '/' :: path) :
    parse? text = (origin? name within).map fun origin =>
      ofOrigin origin (.of (within.dropWhile (!endsAuthority ·) ++ '/' :: path)) := by
  have authority : (within ++ '/' :: path).takeWhile (!endsAuthority ·) = within.takeWhile (!endsAuthority ·) :=
    takeWhile_stop rfl _ _
  have parts : (within ++ '/' :: path).dropWhile (!endsAuthority ·) =
      within.dropWhile (!endsAuthority ·) ++ '/' :: path := dropWhile_stop rfl _ _
  simp only [parse?, read, splitAt?_of_marked unmarked, located, authority, parts, origin?]
  cases Scheme.ofName? name with
  | none => rfl
  | some scheme =>
    cases host? (afterLast '@' (within.takeWhile (!endsAuthority ·))) with
    | none => rfl
    | some found =>
      obtain ⟨host, digits⟩ := found
      simp only [Option.bind_eq_bind, Option.bind_some]
      cases endpoint? scheme digits with
      | none => rfl
      | some endpoint => rfl

/-- What stands before a path decides the origin. URLs that are the same up to the first segment of their path have
the same origin, if they have one, and parts that differ only in what follows. -/
theorem parse?_front (before : List Char) {first : Char} {word : List Char} (named : IsName (first :: word)) :
    ∃ (found? : Option Origin) (front : List Char), (∀ c ∈ front, c ∈ before ∨ c ∈ '/' :: first :: word) ∧
      ∀ behind, EndsSolid ('/' :: behind) →
        parse? (String.ofList (before ++ '/' :: first :: (word ++ '/' :: behind))) =
          found?.map fun origin => ofOrigin origin (.of (front ++ '/' :: behind.filter (!isDropped ·))) := by
  let bare := (before.dropWhile isPadding).filter (!isDropped ·)
  have read (behind : List Char) (ends : EndsSolid ('/' :: behind)) :
      (trim (before ++ '/' :: first :: (word ++ '/' :: behind))).filter (!isDropped ·) =
        bare ++ '/' :: first :: (word ++ '/' :: behind.filter (!isDropped ·)) := by
    obtain ⟨init, last, split, own⟩ := ends
    have ends' : EndsSolid ('/' :: first :: (word ++ '/' :: behind)) :=
      ⟨'/' :: first :: (word ++ init), last, by rw [split]; simp, own⟩
    rw [trim_eq rfl ends', List.filter_append, filter_slash, ← List.cons_append, List.filter_append,
      named.filter_isDropped, filter_slash, List.cons_append]
  by_cases colon : ':' ∈ bare
  · obtain ⟨name, rest, split, unmarked⟩ := List.eq_append_cons_of_mem colon
    let within := (rest ++ ['/']).dropWhile isSlash ++ first :: word
    refine ⟨origin? name within, within.dropWhile (!endsAuthority ·), fun c member => ?_, fun behind ends => ?_⟩
    · rcases List.mem_append.1 ((List.dropWhile_sublist _).subset member) with front | own
      · rcases List.mem_append.1 ((List.dropWhile_sublist _).subset front) with old | slash
        · have inBare : c ∈ bare := split ▸ List.mem_append_right _ (List.mem_cons_of_mem _ old)
          exact .inl ((List.dropWhile_sublist _).subset (List.mem_filter.1 inBare).1)
        · exact .inr (List.mem_singleton.1 slash ▸ List.mem_cons_self)
      · exact .inr (List.mem_cons_of_mem _ own)
    · have whole := read behind ends
      rw [split, List.append_assoc, List.cons_append] at whole
      have opens := named.unparted first List.mem_cons_self
      have located := dropWhile_stop opens (rest ++ ['/']) (word ++ '/' :: behind.filter (!isDropped ·))
      refine parse?_of_colon (by rw [String.toList_ofList, whole]) unmarked ?_
      simpa [within] using located
  · refine ⟨none, [], nofun, fun behind ends => ?_⟩
    exact parse?_of_slash (by rw [String.toList_ofList, read behind ends]) colon

/-- A collection and a part of it behind the same front. Both are URLs or neither is, and in the absence of a query
and of a fragment the URLs differ in the last segment of their paths. -/
theorem parse?_part (before middle : List Char) {first : Char} {word collection part : List Char}
    (service : IsName (first :: word)) (whole : IsName collection) (within : IsName part) :
    let text := before ++ '/' :: first :: (word ++ '/' :: (middle ++ '/' :: collection))
    (parse? (String.ofList text)).isSome = (parse? (String.ofList (text ++ '/' :: part))).isSome ∧
      (PathOnly before → PathOnly middle → ∀ url, parse? (String.ofList text) = some url →
        ∃ path, url.parts = ⟨path, none, none⟩ ∧
          parse? (String.ofList (text ++ '/' :: part)) =
            some { url with parts := ⟨path ++ '/' :: part, none, none⟩ }) := by
  intro text
  obtain ⟨found?, front, source, reads⟩ := parse?_front before service
  let kept := middle.filter (!isDropped ·)
  have short : parse? (String.ofList text) = found?.map fun origin =>
      ofOrigin origin (.of ((front ++ '/' :: kept) ++ '/' :: collection)) := by
    have read := reads (middle ++ '/' :: collection) (whole.endsSolid ('/' :: middle))
    rw [List.filter_append, filter_slash, whole.filter_isDropped] at read
    simpa [text] using read
  have long : parse? (String.ofList (text ++ '/' :: part)) = found?.map fun origin =>
      ofOrigin origin (.of ((front ++ '/' :: kept) ++ '/' :: (collection ++ '/' :: part))) := by
    have ends := within.endsSolid ('/' :: (middle ++ '/' :: collection))
    have read := reads ((middle ++ '/' :: collection) ++ '/' :: part) ends
    simp only [List.filter_append, filter_slash, whole.filter_isDropped, within.filter_isDropped] at read
    simpa [text] using read
  refine ⟨by rw [short, long, Option.isSome_map, Option.isSome_map], fun base project url parsed => ?_⟩
  have frontOnly : PathOnly front := by
    have others : PathOnly ('/' :: first :: word) := pathOnly_slash.2 service.pathOnly
    exact ⟨fun member => (source _ member).elim base.1 others.1,
      fun member => (source _ member).elim base.2 others.2⟩
  have keptOnly : PathOnly kept :=
    ⟨fun member => project.1 (List.mem_filter.1 member).1, fun member => project.2 (List.mem_filter.1 member).1⟩
  have only : PathOnly ((front ++ '/' :: kept) ++ '/' :: (collection ++ '/' :: part)) := by
    simp only [pathOnly_append, pathOnly_slash]
    exact ⟨⟨frontOnly, keptOnly⟩, whole.pathOnly, within.pathOnly⟩
  obtain ⟨path, one, two⟩ := Parts.of_append (by simp) whole within only
  rw [short] at parsed
  obtain ⟨origin, located, rfl⟩ := Option.map_eq_some_iff.1 parsed
  refine ⟨path, one, ?_⟩
  rw [long, located, Option.map_some, two]
  rfl

end Url

end CloudKeeper.Http
