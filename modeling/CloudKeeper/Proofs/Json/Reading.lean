import CloudKeeper.Json.Document
import CloudKeeper.Proofs.Json.Lexing
import CloudKeeper.Proofs.Text.Utf8
/-!
Reading what the printer writes. The indented form of a value whose numbers are all integers of 64 bits
is read as the tree of that value, with nothing left over. The compact form has the same tokens, so it is
read as the same tree.
-/
namespace CloudKeeper.Json

namespace Value

mutual

/-- All numbers in a value are integers that fit 64 bits, signed or unsigned. -/
def Exact : Value → Prop
  | .number (.int i) => Int64.minValue.toInt ≤ i ∧ i < UInt64.size
  | .number (.float _) => False
  | .array items => ItemsExact items
  | .object members => MembersExact members
  | .null | .bool _ | .string _ => True

/-- All items of an array are exact. -/
def ItemsExact : List Value → Prop
  | [] => True
  | v :: rest => v.Exact ∧ ItemsExact rest

/-- The values of all members of an object are exact. -/
def MembersExact : List (String × Value) → Prop
  | [] => True
  | (_, v) :: rest => v.Exact ∧ MembersExact rest

end

theorem itemsExact_iff {items : List Value} : ItemsExact items ↔ ∀ v ∈ items, v.Exact := by
  induction items with
  | nil => exact ⟨fun _ _ member => absurd member List.not_mem_nil, fun _ => trivial⟩
  | cons v rest ih => rw [ItemsExact, ih, List.forall_mem_cons]

theorem membersExact_iff {members : List (String × Value)} :
    MembersExact members ↔ ∀ m ∈ members, m.2.Exact := by
  induction members with
  | nil => exact ⟨fun _ _ member => absurd member List.not_mem_nil, fun _ => trivial⟩
  | cons m rest ih => rw [MembersExact, ih, List.forall_mem_cons]

theorem exact_nat {n : Nat} (fits : n < UInt64.size) : (nat n).Exact := by
  refine ⟨?_, Int.ofNat_lt.2 fits⟩
  exact Int.le_trans (show Int64.minValue.toInt ≤ 0 by decide) (Int.natCast_nonneg n)

theorem exact_int64 (i : Int64) : (int i.toInt).Exact :=
  ⟨i.minValue_le_toInt, Int.lt_of_le_of_lt i.toInt_le (by decide)⟩

end Value

namespace Reader

open Token (written EndsNumber)

/-- The reader after the tokens of an input. -/
def read (r : Reader) (input : Input) : Reader := (Token.ofInput input).foldl step r

/-- A reader that takes the next value into the innermost of some open frames, unless the array that
has just been opened is closed. -/
def Awaits (r : Reader) (outer : List Frame) : Prop :=
  ∀ t, t ≠ .closeArray → r.step t = readValue outer t

private theorem read_token {input rest : Input} {t : Token} (r : Reader)
    (scanned : Token.scan input = some (t, rest)) : r.read input = (r.step t).read rest := by
  rw [read, Token.ofInput_of_scan scanned]
  rfl

private theorem read_awaited {r : Reader} {outer : List Frame} (awaits : r.Awaits outer) (t : Token)
    (opens : t ≠ .closeArray) {input rest : Input} (scanned : Token.scan input = some (t, rest)) :
    r.read input = (readValue outer t).read rest := by
  rw [read_token r scanned, awaits t opens]

private theorem read_newLine (r : Reader) (depth : Nat) (rest : Input) :
    r.read (written (Value.newLine depth) ++ rest) = r.read rest := by
  rw [read, Token.ofInput_newLine, read]

private theorem endsNumber_newLine (depth : Nat) (rest : Input) :
    EndsNumber (written (Value.newLine depth) ++ rest) := ⟨rfl, rfl, rfl, rfl⟩

private theorem awaits_value (outer : List Frame) : Awaits (.value outer) outer := fun _ _ => rfl

private theorem awaits_firstItem (outer : List Frame) :
    Awaits (.firstItem outer) (.array [] :: outer) := by
  intro t open_
  cases t with
  | closeArray => exact absurd rfl open_
  | _ => rfl

/-- A written member is read once its value is. -/
private theorem read_member {s : String} {v : Value} {depth : Nat} {opened : Bool}
    {before : List (Option String × Document)} {outer : List Frame} {rest : Input}
    (value : (Reader.value (.object before (some s) :: outer)).read
      (written (v.prettyAt (depth + 1)) ++ rest) =
        (Reader.afterMember ((some s, .ofValue v) :: before) outer).read rest) :
    (Reader.memberName opened before outer).read (written (Value.newLine (depth + 1)) ++
      (written (quoted s) ++ (some ':' :: some ' ' :: (written (v.prettyAt (depth + 1)) ++ rest)))) =
        (Reader.afterMember ((some s, .ofValue v) :: before) outer).read rest := by
  have name : (Reader.memberName opened before outer).step (.string (some s)) =
      .colon before (some s) outer := by
    cases opened <;> rfl
  rw [read_newLine, read_token _ (Token.scan_quoted s _), name, read_token (t := .colon) _ rfl, read,
    Token.ofInput_space rfl]
  exact value

mutual

/-- A written value is delivered to the frame that awaits it. -/
private theorem read_value (v : Value) (exact : v.Exact) (depth : Nat) {r : Reader}
    {outer : List Frame} (awaits : r.Awaits outer) {rest : Input} (ends : EndsNumber rest) :
    r.read (written (v.prettyAt depth) ++ rest) = (deliver (.ofValue v) outer).read rest := by
  match v with
  | .null => exact read_awaited awaits .null nofun rfl
  | .bool true => exact read_awaited awaits (.bool true) nofun rfl
  | .bool false => exact read_awaited awaits (.bool false) nofun rfl
  | .number (.int i) =>
    have value := Numeral.value?_ofInt exact.1 exact.2
    refine (read_awaited awaits (.number (.ofInt i)) nofun (Token.scan_int i ends)).trans ?_
    rw [readValue, value]
    rfl
  | .string s => exact read_awaited awaits (.string (some s)) nofun (Token.scan_quoted s rest)
  | .array [] =>
    exact (read_awaited awaits .openArray nofun rfl).trans (read_token (t := .closeArray) _ rfl)
  | .array (item :: items) =>
    refine (read_awaited awaits .openArray nofun rfl).trans ?_
    exact read_items (item :: items) exact depth nofun (awaits_firstItem outer) rest
  | .object [] =>
    exact (read_awaited awaits .openObject nofun rfl).trans (read_token (t := .closeObject) _ rfl)
  | .object (member :: members) =>
    refine (read_awaited awaits .openObject nofun rfl).trans ?_
    exact read_members (member :: members) exact depth nofun true [] outer rest

/-- The written items of an array are read up to its end. -/
private theorem read_items (items : List Value) (exact : Value.ItemsExact items) (depth : Nat)
    (filled : items ≠ []) {r : Reader} {before : List Document} {outer : List Frame}
    (awaits : r.Awaits (.array before :: outer)) (rest : Input) :
    r.read (written (Value.prettyItems depth items) ++ rest) =
      (deliver (.array (before.reverse ++ Document.ofItems items) .closed) outer).read rest := by
  match items with
  | [v] =>
    simp only [Value.prettyItems, Token.written_append, List.append_assoc]
    rw [read_newLine, read_value v exact.1 _ awaits (endsNumber_newLine ..), read_newLine,
      read_token (t := .closeArray) _ rfl]
    simp only [deliver, step, List.reverse_cons, Document.ofItems]
    rfl
  | v :: w :: more =>
    simp only [Value.prettyItems, Token.written_append, Token.written_cons, List.append_assoc]
    rw [read_newLine, read_value v exact.1 _ awaits ⟨rfl, rfl, rfl, rfl⟩]
    refine (read_token (t := .comma) _ rfl).trans ?_
    refine (read_items (w :: more) exact.2 depth nofun (awaits_value _) rest).trans ?_
    rw [List.reverse_cons, List.append_assoc]
    rfl

/-- The written members of an object are read up to its end. -/
private theorem read_members (members : List (String × Value)) (exact : Value.MembersExact members)
    (depth : Nat) (filled : members ≠ []) (opened : Bool)
    (before : List (Option String × Document)) (outer : List Frame) (rest : Input) :
    (Reader.memberName opened before outer).read
        (written (Value.prettyMembers depth members) ++ rest) =
      (deliver (.object (before.reverse ++ Document.ofMembers members) .closed) outer).read rest := by
  match members with
  | [(s, v)] =>
    have value := read_value v exact.1 (depth + 1) (awaits_value (.object before (some s) :: outer))
      (endsNumber_newLine depth (some '\x7d' :: rest))
    simp only [Value.prettyMembers, Token.written_append, Token.written_cons, List.append_assoc]
    refine (read_member value).trans ?_
    rw [read_newLine]
    refine (read_token (t := .closeObject) _ rfl).trans ?_
    simp only [step, List.reverse_cons]
    rfl
  | (s, v) :: second :: more =>
    have ends : EndsNumber
        (some ',' :: (written (Value.prettyMembers depth (second :: more)) ++ rest)) :=
      ⟨rfl, rfl, rfl, rfl⟩
    have value := read_value v exact.1 (depth + 1)
      (awaits_value (.object before (some s) :: outer)) ends
    simp only [Value.prettyMembers, Token.written_append, Token.written_cons, List.append_assoc]
    refine (read_member value).trans ?_
    refine (read_token (t := .comma) _ rfl).trans ?_
    refine (read_members (second :: more) exact.2 depth nofun false _ outer rest).trans ?_
    rw [List.reverse_cons, List.append_assoc]
    rfl

end

end Reader

/-- Octets from which a reader reads a whole value are read as that value and nothing else. -/
private theorem Text.ofOctets_of_read {cs : List Char} {v : Value}
    (whole : (Reader.value []).read (Token.written cs) = (Reader.complete (.ofValue v)).read []) :
    Text.ofOctets (Text.Utf8.ofString (String.ofList cs)) = ⟨.ofValue v, true⟩ := by
  have tokens : (Token.ofInput (cs.map some)).foldl Reader.step (.value []) =
      .complete (.ofValue v) := by
    refine Eq.trans whole ?_
    rw [Reader.read, Token.ofInput]
    rfl
  rw [Text.ofOctets, Text.Utf8.ofString, String.toList_ofList, Text.Utf8.decode_encode, Text.ofTokens,
    tokens]
  rfl

private theorem Reader.read_pretty (v : Value) (exact : v.Exact) :
    (Reader.value []).read (Token.written (v.prettyAt 0)) = (Reader.complete (.ofValue v)).read [] := by
  have ends : Token.EndsNumber [] := ⟨rfl, rfl, rfl, rfl⟩
  have whole := Reader.read_value v exact 0 (Reader.awaits_value []) ends
  rwa [List.append_nil] at whole

/-- The octets of a printed value are read as the tree of that value and nothing else. -/
theorem Text.ofOctets_toPrettyText (v : Value) (exact : v.Exact) :
    Text.ofOctets (Text.Utf8.ofString v.toPrettyText) = ⟨.ofValue v, true⟩ :=
  Text.ofOctets_of_read (Reader.read_pretty v exact)

/-! ## The compact form -/

namespace Token

/-- A text that is one token is that token whatever follows. -/
private theorem ofInput_token {text rest rest' : Input} {t : Token}
    (scans : ∀ rest, EndsNumber rest → scan (text ++ rest) = some (t, rest)) (ends : EndsNumber rest)
    (ends' : EndsNumber rest') (same : ofInput rest = ofInput rest') :
    ofInput (text ++ rest) = ofInput (text ++ rest') := by
  rw [ofInput_of_scan (scans rest ends), ofInput_of_scan (scans rest' ends'), same]

private theorem ofInput_mark {c : Char} {t : Token} {rest rest' : Input}
    (scans : ∀ rest, scan (some c :: rest) = some (t, rest)) (same : ofInput rest = ofInput rest') :
    ofInput (some c :: rest) = ofInput (some c :: rest') := by
  rw [ofInput_of_scan (scans rest), ofInput_of_scan (scans rest'), same]

private theorem ofInput_name {rest rest' : Input} (name : String) (same : ofInput rest = ofInput rest') :
    ofInput (written (quoted name) ++ some ':' :: rest) =
      ofInput (written (quoted name) ++ some ':' :: some ' ' :: rest') := by
  have blank : ofInput (some ' ' :: rest') = ofInput rest' := ofInput_space rfl rest'
  rw [ofInput_of_scan (scan_quoted name _), ofInput_of_scan (scan_quoted name _),
    ofInput_mark (t := .colon) (fun _ => rfl) (same.trans blank.symm)]

mutual

/-- The compact form of a value has the tokens of the indented one, if what follows has the same tokens. -/
private theorem ofInput_compact (v : Value) (exact : v.Exact) (depth : Nat) {rest rest' : Input}
    (ends : EndsNumber rest) (ends' : EndsNumber rest') (same : ofInput rest = ofInput rest') :
    ofInput (written v.compact ++ rest) = ofInput (written (v.prettyAt depth) ++ rest') := by
  match v with
  | .null => exact ofInput_token (fun _ _ => rfl) ends ends' same
  | .bool true => exact ofInput_token (fun _ _ => rfl) ends ends' same
  | .bool false => exact ofInput_token (fun _ _ => rfl) ends ends' same
  | .number (.int i) => exact ofInput_token (fun _ ends => scan_int i ends) ends ends' same
  | .string s => exact ofInput_token (fun rest _ => scan_quoted s rest) ends ends' same
  | .array [] =>
    have closes := ofInput_mark (c := ']') (t := .closeArray) (fun _ => rfl) same
    exact ofInput_mark (t := .openArray) (fun _ => rfl) closes
  | .array (item :: items) =>
    exact ofInput_mark (t := .openArray) (fun _ => rfl) (ofInput_compactItems (item :: items) exact depth nofun same)
  | .object [] =>
    have closes := ofInput_mark (c := '\x7d') (t := .closeObject) (fun _ => rfl) same
    exact ofInput_mark (t := .openObject) (fun _ => rfl) closes
  | .object (member :: members) =>
    exact ofInput_mark (t := .openObject) (fun _ => rfl)
      (ofInput_compactMembers (member :: members) exact depth nofun same)

private theorem ofInput_compactItems (items : List Value) (exact : Value.ItemsExact items) (depth : Nat)
    (filled : items ≠ []) {rest rest' : Input} (same : ofInput rest = ofInput rest') :
    ofInput (written (Value.compactItems items) ++ rest) =
      ofInput (written (Value.prettyItems depth items) ++ rest') := by
  match items with
  | [v] =>
    have closes := ofInput_mark (c := ']') (t := .closeArray) (fun _ => rfl) same
    simp only [Value.compactItems, Value.prettyItems, written_append, List.append_assoc, ofInput_newLine]
    refine ofInput_compact v exact.1 _ ⟨rfl, rfl, rfl, rfl⟩ ⟨rfl, rfl, rfl, rfl⟩ ?_
    rw [ofInput_newLine]
    exact closes
  | v :: w :: more =>
    have others := ofInput_compactItems (w :: more) exact.2 depth nofun same
    simp only [Value.compactItems, Value.prettyItems, written_append, written_cons, List.append_assoc,
      ofInput_newLine]
    exact ofInput_compact v exact.1 _ ⟨rfl, rfl, rfl, rfl⟩ ⟨rfl, rfl, rfl, rfl⟩
      (ofInput_mark (t := .comma) (fun _ => rfl) others)

private theorem ofInput_compactMembers (members : List (String × Value)) (exact : Value.MembersExact members)
    (depth : Nat) (filled : members ≠ []) {rest rest' : Input} (same : ofInput rest = ofInput rest') :
    ofInput (written (Value.compactMembers members) ++ rest) =
      ofInput (written (Value.prettyMembers depth members) ++ rest') := by
  match members with
  | [(name, v)] =>
    have closes := ofInput_mark (c := '\x7d') (t := .closeObject) (fun _ => rfl) same
    simp only [Value.compactMembers, Value.prettyMembers, written_append, written_cons, List.append_assoc,
      List.cons_append, ofInput_newLine]
    refine ofInput_name name (ofInput_compact v exact.1 _ ⟨rfl, rfl, rfl, rfl⟩ ⟨rfl, rfl, rfl, rfl⟩ ?_)
    rw [ofInput_newLine]
    exact closes
  | (name, v) :: second :: more =>
    have others := ofInput_compactMembers (second :: more) exact.2 depth nofun same
    simp only [Value.compactMembers, Value.prettyMembers, written_append, written_cons, List.append_assoc,
      List.cons_append, ofInput_newLine]
    exact ofInput_name name (ofInput_compact v exact.1 _ ⟨rfl, rfl, rfl, rfl⟩ ⟨rfl, rfl, rfl, rfl⟩
      (ofInput_mark (t := .comma) (fun _ => rfl) others))

end

end Token

/-- The octets of the compact form of a value are read as the tree of that value and nothing else. -/
theorem Text.ofOctets_toText (v : Value) (exact : v.Exact) :
    Text.ofOctets (Text.Utf8.ofString v.toText) = ⟨.ofValue v, true⟩ := by
  have ends : Token.EndsNumber [] := ⟨rfl, rfl, rfl, rfl⟩
  have same := Token.ofInput_compact v exact 0 ends ends rfl
  simp only [List.append_nil] at same
  refine Text.ofOctets_of_read ?_
  rw [Reader.read, same]
  exact Reader.read_pretty v exact

/-- The compact form of an object with one member, which is a text, is read as that object. -/
theorem Text.ofOctets_member (name s : String) :
    Text.ofOctets (Text.Utf8.ofString (Value.toText (.object [(name, .string s)]))) =
      ⟨.ofValue (.object [(name, .string s)]), true⟩ :=
  Text.ofOctets_toText _ ⟨trivial, trivial⟩

end CloudKeeper.Json
