import Mathlib.Data.List.Forall2
import Mathlib.Data.List.TakeWhile
import Underwriting.Field.Path
import Underwriting.Proofs.Text.Split

/-! # The grammar of paths

A path consists of segments divided by points. A segment is a name of letters, digits and
underscores, and an index in brackets may follow it: digits of 64 bits, perhaps behind a plus sign.
Reading accepts exactly such texts, with white space around them, and gives the segments that they
spell; no text spells two lists of segments. Every list of named segments is spelled by the text
that is written for it.
-/

namespace Underwriting

namespace PathSegment

/-- An ASCII letter, a digit or an underscore. -/
def IsInNames (character : Char) : Prop :=
  'A' ≤ character ∧ character ≤ 'Z' ∨ 'a' ≤ character ∧ character ≤ 'z' ∨
    '0' ≤ character ∧ character ≤ '9' ∨ character = '_'

/-- A name of a segment: one or more letters, digits and underscores. -/
def IsName (name : List Char) : Prop := name ≠ [] ∧ ∀ character ∈ name, IsInNames character

/-- The spellings of an index: digits that stand for it, zeros in front of them, a plus sign. -/
inductive SpellsIndex : List Char → UInt64 → Prop
  | plain {digits : List Char} {index : UInt64} :
      Numeral.Denotes digits index.toNat → SpellsIndex digits index
  | signed {digits : List Char} {index : UInt64} :
      Numeral.Denotes digits index.toNat → SpellsIndex ('+' :: digits) index

/-- The spellings of a segment. -/
inductive Spells : List Char → PathSegment → Prop
  | named {name : List Char} : IsName name → Spells name ⟨String.ofList name, none⟩
  | indexed {name spelling : List Char} {index : UInt64} :
      IsName name → SpellsIndex spelling index →
      Spells (name ++ '[' :: spelling ++ [']']) ⟨String.ofList name, some index⟩

section Names

variable {name : List Char}

private theorem isNameCharacter_iff {character : Char} :
    isNameCharacter character = true ↔ IsInNames character := by
  delta isNameCharacter IsInNames Char.isAlphanum Char.isAlpha Char.isUpper Char.isLower
    Char.isDigit
  simp only [Bool.or_eq_true, Bool.and_eq_true, decide_eq_true_eq, beq_iff_eq, Char.le_def,
    ge_iff_le, or_assoc]

theorem isName_iff : IsName name ↔ name ≠ [] ∧ name.all isNameCharacter = true := by
  simp only [IsName, List.all_eq_true, isNameCharacter_iff]

theorem named_eq_ok_iff {index? : Option UInt64} {segment : PathSegment} :
    named name index? = .ok segment ↔ IsName name ∧ segment = ⟨String.ofList name, index?⟩ := by
  rw [named, isName_iff]
  cases name with
  | nil => simp
  | cons first rest => cases (first :: rest).all isNameCharacter <;> simp [eq_comm]

/-- A character that is no letter, digit or underscore is not part of a name. -/
theorem IsName.not_mem (isName : IsName name) {character : Char}
    (other : isNameCharacter character = false) : character ∉ name := by
  intro member
  rw [isNameCharacter_iff.mpr (isName.2 character member)] at other
  cases other

theorem IsName.isBlank (isName : IsName name) {character : Char} (member : character ∈ name) :
    isBlank character = false := by
  rcases isName.2 character member with ⟨least, most⟩ | ⟨least, most⟩ | ⟨least, most⟩ | rfl
  · exact isBlank_of_visible (Char.le_trans (by decide) least) (Char.le_trans most (by decide))
  · exact isBlank_of_visible (Char.le_trans (by decide) least) (Char.le_trans most (by decide))
  · exact isBlank_of_visible (Char.le_trans (by decide) least) (Char.le_trans most (by decide))
  · decide

end Names

section Indices

theorem spellsIndex_iff {spelling : List Char} {index : UInt64} :
    SpellsIndex spelling index ↔ Numeral.read? maxIndex spelling = some index.toNat := by
  have within : index.toNat ≤ maxIndex := Nat.le_pred_of_lt index.toNat_lt
  rw [Numeral.read?_eq_some_iff, and_iff_right within]
  constructor
  · rintro (denotes | denotes)
    · exact .inl denotes
    · exact .inr ⟨_, rfl, denotes⟩
  · rintro (denotes | ⟨digits, rfl, denotes⟩)
    · exact .plain denotes
    · exact .signed denotes

theorem SpellsIndex.isDigit_or {spelling : List Char} {index : UInt64}
    (spells : SpellsIndex spelling index) {character : Char} (member : character ∈ spelling) :
    Numeral.isDigit character = true ∨ character = '+' := by
  cases spells with
  | plain denotes => exact .inl (denotes.areDigits character member)
  | signed denotes =>
    rcases List.mem_cons.mp member with rfl | digit
    · exact .inr rfl
    · exact .inl (denotes.areDigits character digit)

end Indices

section Segments

variable {text name : List Char} {segment : PathSegment}

/-- The name of a segment reaches up to its first bracket. -/
private theorem cut_at_bracket (plain : '[' ∉ name) (rest : List Char) :
    (name ++ '[' :: rest).takeWhile (· ≠ '[') = name ∧
      (name ++ '[' :: rest).dropWhile (· ≠ '[') = '[' :: rest := by
  have visible : ∀ character ∈ name, decide (character ≠ '[') = true := by
    intro character member
    exact decide_eq_true fun same => plain (same ▸ member)
  rw [List.takeWhile_append_of_pos visible, List.dropWhile_append_of_pos visible]
  simp

theorem parse_of_plain (plain : '[' ∉ text) : parse text = named text none := by
  have visible : ∀ character ∈ text, decide (character ≠ '[') = true := by
    intro character member
    exact decide_eq_true fun same => plain (same ▸ member)
  have name := List.takeWhile_eq_self_iff.mpr visible
  have rest := List.dropWhile_eq_nil_iff.mpr visible
  simp only [parse, name, rest]

theorem parse_of_index (plain : '[' ∉ name) {spelling : List Char} {index : UInt64}
    (spells : SpellsIndex spelling index) :
    parse (name ++ '[' :: spelling ++ [']']) = named name (some index) := by
  obtain ⟨front, back⟩ := cut_at_bracket plain (spelling ++ [']'])
  rw [List.append_assoc, List.cons_append]
  simp only [parse, front, back, List.getLast?_append, List.getLast?_singleton, Option.some_or,
    List.dropLast_concat, spellsIndex_iff.mp spells, UInt64.ofNat_toNat, ↓reduceIte]

/-- Behind the first bracket there is an index and the bracket that closes it, or nothing is
read. -/
theorem exists_index_of_parse (plain : '[' ∉ name) {inner : List Char}
    (parsed : parse (name ++ '[' :: inner) = .ok segment) :
    ∃ spelling index, inner = spelling ++ [']'] ∧ SpellsIndex spelling index := by
  obtain ⟨front, back⟩ := cut_at_bracket plain inner
  simp only [parse, front, back] at parsed
  split at parsed
  · rename_i closed
    split at parsed
    · rename_i index read
      have within : index ≤ maxIndex := (Numeral.read?_eq_some_iff.mp read).1
      refine ⟨inner.dropLast, UInt64.ofNat index, ?_, spellsIndex_iff.mpr ?_⟩
      · exact (List.dropLast_append_getLast? _ closed).symm
      · rw [read, UInt64.toNat_ofNat_of_lt' (Nat.lt_of_le_of_lt within (by decide))]
    · cases parsed
  · cases parsed

/-- A segment is read from its spellings, and from nothing else. -/
theorem parse_eq_ok_iff : parse text = .ok segment ↔ Spells text segment := by
  constructor
  · intro parsed
    by_cases bracket : '[' ∈ text
    · obtain ⟨name, inner, rfl, plain⟩ := List.eq_append_cons_of_mem bracket
      obtain ⟨spelling, index, rfl, spells⟩ := exists_index_of_parse plain parsed
      rw [← List.cons_append, ← List.append_assoc] at parsed ⊢
      rw [parse_of_index plain spells] at parsed
      obtain ⟨isName, rfl⟩ := named_eq_ok_iff.mp parsed
      exact .indexed isName spells
    · rw [parse_of_plain bracket] at parsed
      obtain ⟨isName, rfl⟩ := named_eq_ok_iff.mp parsed
      exact .named isName
  · have bracket : isNameCharacter '[' = false := by decide
    rintro (isName | ⟨isName, spells⟩)
    · rw [parse_of_plain (isName.not_mem bracket)]
      exact named_eq_ok_iff.mpr ⟨isName, rfl⟩
    · rw [parse_of_index (isName.not_mem bracket) spells]
      exact named_eq_ok_iff.mpr ⟨isName, rfl⟩

/-- The spellings of segments contain neither points nor white space. -/
theorem Spells.plain (spells : Spells text segment) {character : Char} (member : character ∈ text) :
    character ≠ '.' ∧ isBlank character = false := by
  have name {name : List Char} (isName : IsName name) (member : character ∈ name) :
      character ≠ '.' ∧ isBlank character = false :=
    ⟨fun same => isName.not_mem (by decide) (same ▸ member), isName.isBlank member⟩
  cases spells with
  | named isName => exact name isName member
  | indexed isName spells =>
    simp only [List.mem_append, List.mem_cons, List.not_mem_nil, or_false, or_assoc] at member
    rcases member with within | rfl | digit | rfl
    · exact name isName within
    · decide
    · rcases spells.isDigit_or digit with digit | rfl
      · refine ⟨?_, isBlank_of_isDigit digit⟩
        rintro rfl
        cases digit
      · decide
    · decide

/-- A segment with a name is spelled by what is written for it. -/
theorem spells_render (isName : IsName segment.name.toList) : Spells segment.render segment := by
  obtain ⟨name, index?⟩ := segment
  cases index? with
  | none =>
    have spells := Spells.named isName
    rwa [String.ofList_toList] at spells
  | some index =>
    have spells := Spells.indexed isName (.plain (Numeral.denotes_digits index.toNat))
    rwa [String.ofList_toList] at spells

end Segments

end PathSegment

namespace FieldPath

/-- The spellings of a list of segments, divided by points. There is at least one segment. -/
def Spells (text : List Char) (segments : List PathSegment) : Prop :=
  segments ≠ [] ∧ ∃ pieces, text = List.intercalate ['.'] pieces ∧
    List.Forall₂ PathSegment.Spells pieces segments

variable {text : List Char} {segments : List PathSegment}

theorem parseSegments_eq_ok_iff {pieces : List (List Char)} :
    parseSegments pieces = .ok segments ↔ List.Forall₂ PathSegment.Spells pieces segments := by
  induction pieces generalizing segments with
  | nil => simp [parseSegments, List.forall₂_nil_left_iff, eq_comm]
  | cons piece rest ih =>
    rw [List.forall₂_cons_left_iff]
    simp only [← PathSegment.parse_eq_ok_iff, ← ih, parseSegments]
    cases PathSegment.parse piece <;> cases parseSegments rest <;> simp [Except.map, eq_comm]

/-- A piece that spells a segment contains neither points nor white space. -/
private theorem plain_of_forall₂ {pieces : List (List Char)}
    (spells : List.Forall₂ PathSegment.Spells pieces segments) :
    ∀ piece ∈ pieces, ∀ character ∈ piece, character ≠ '.' ∧ isBlank character = false :=
  ((List.forall₂_and_left _ _).mp
    (spells.imp fun _ _ spells => ⟨fun _ => spells.plain, spells⟩)).1

theorem Spells.isBlank (spells : Spells text segments) {character : Char}
    (member : character ∈ text) : isBlank character = false := by
  obtain ⟨-, pieces, rfl, spells⟩ := spells
  rcases mem_intercalate member with rfl | ⟨piece, listed, within⟩
  · decide
  · exact (plain_of_forall₂ spells piece listed character within).2

/-- A list of segments is spelled by a text if it is read from the pieces of the text. -/
theorem spells_iff : Spells text segments ↔
    text ≠ [] ∧ parseSegments (splitOn '.' text) = .ok segments := by
  constructor
  · rintro ⟨nonempty, pieces, rfl, spells⟩
    have some : pieces ≠ [] := by
      rintro rfl
      exact nonempty (List.forall₂_nil_left_iff.mp spells)
    have apart : splitOn '.' (List.intercalate ['.'] pieces) = pieces := by
      refine splitOn_intercalate some fun piece listed point => ?_
      exact (plain_of_forall₂ spells piece listed '.' point).1 rfl
    rw [apart, parseSegments_eq_ok_iff]
    refine ⟨fun empty => ?_, spells⟩
    rw [empty] at apart
    rw [← apart, ← parseSegments_eq_ok_iff] at spells
    cases spells
  · rintro ⟨-, parsed⟩
    have spells := parseSegments_eq_ok_iff.mp parsed
    refine ⟨?_, splitOn '.' text, (intercalate_splitOn '.' text).symm, spells⟩
    rintro rfl
    exact splitOn_ne_nil '.' text (List.forall₂_nil_right_iff.mp spells)

/-- A path is read from a text that spells its segments once the white space around it is taken
off, and from nothing else. -/
theorem parse_eq_ok_iff {raw : String} {path : FieldPath} :
    parse raw = .ok path ↔
      path.text = trimmed raw ∧ Spells path.text.toList path.segments := by
  obtain ⟨text, segments⟩ := path
  have body : trimmed raw = String.ofList (trimBlanks raw.toList) := rfl
  rw [spells_iff, body]
  constructor
  · intro parsed
    simp only [parse] at parsed
    split at parsed
    · cases parsed
    · rename_i nonempty
      split at parsed
      · cases parsed
      · rename_i read
        cases parsed
        rw [String.toList_ofList]
        exact ⟨rfl, fun empty => nonempty (List.isEmpty_iff.mpr empty), read⟩
  · rintro ⟨rfl, nonempty, parsed⟩
    rw [String.toList_ofList] at nonempty parsed
    simp only [parse, List.isEmpty_iff, nonempty, parsed, ↓reduceIte]

theorem parse_of_spells (spells : Spells text segments) :
    parse (String.ofList text) = .ok ⟨String.ofList text, segments⟩ := by
  have visible := trimBlanks_of_visible fun character => spells.isBlank
  refine parse_eq_ok_iff.mpr ⟨?_, ?_⟩
  · rw [trimmed, String.toList_ofList, visible]
  · rwa [String.toList_ofList]

theorem spells_renderSegments (nonempty : segments ≠ [])
    (named : ∀ segment ∈ segments, PathSegment.IsName segment.name.toList) :
    Spells (renderSegments segments) segments := by
  refine ⟨nonempty, segments.map PathSegment.render, rfl, ?_⟩
  rw [List.forall₂_map_left_iff, List.forall₂_same]
  exact fun segment listed => PathSegment.spells_render (named segment listed)

/-- A text is read as a path exactly if it spells segments once the white space around it is taken
off, and as those segments. The text of a path is read as the same path, and what is written for a
list of named segments is read as the list. -/
theorem parse_follows_grammar (raw : String) :
    ((∃ path, parse raw = .ok path) ↔ ∃ segments, Spells (trimmed raw).toList segments) ∧
      (∀ path, parse raw = .ok path ↔
        path.text = trimmed raw ∧ Spells (trimmed raw).toList path.segments) ∧
      (∀ path, parse raw = .ok path → parse path.text = .ok path) ∧
      ∀ segments : List PathSegment, segments ≠ [] →
        (∀ segment ∈ segments, PathSegment.IsName segment.name.toList) →
        parse (String.ofList (renderSegments segments)) =
          .ok ⟨String.ofList (renderSegments segments), segments⟩ := by
  have follows (path : FieldPath) : parse raw = .ok path ↔
      path.text = trimmed raw ∧ Spells (trimmed raw).toList path.segments := by
    rw [parse_eq_ok_iff]
    exact and_congr_right fun same => by rw [same]
  refine ⟨⟨?_, ?_⟩, follows, ?_, ?_⟩
  · rintro ⟨path, parsed⟩
    exact ⟨path.segments, ((follows path).mp parsed).2⟩
  · rintro ⟨segments, spells⟩
    exact ⟨⟨trimmed raw, segments⟩, (follows _).mpr ⟨rfl, spells⟩⟩
  · intro path parsed
    have again := parse_of_spells (parse_eq_ok_iff.mp parsed).2
    rwa [String.ofList_toList] at again
  · intro segments nonempty named
    exact parse_of_spells (spells_renderSegments nonempty named)

/-- Zeros in front of an index and its sign belong to the text of a path, not to its segments. -/
theorem parse_follows_grammar_signed :
    let segments : List PathSegment := [⟨"guarantors", some 7⟩, ⟨"fico_score", none⟩]
    (∀ segment ∈ segments, PathSegment.IsName segment.name.toList) ∧
      parse " guarantors[+007].fico_score\n" = .ok ⟨"guarantors[+007].fico_score", segments⟩ ∧
      parse "guarantors[+007].fico_score" = .ok ⟨"guarantors[+007].fico_score", segments⟩ ∧
      parse "guarantors[7].fico_score" = .ok ⟨"guarantors[7].fico_score", segments⟩ := by
  intro segments
  obtain ⟨-, -, again, written⟩ := parse_follows_grammar " guarantors[+007].fico_score\n"
  have parsed :
      parse " guarantors[+007].fico_score\n" = .ok ⟨"guarantors[+007].fico_score", segments⟩ := by
    decide +kernel
  have named : ∀ segment ∈ segments, PathSegment.IsName segment.name.toList := by
    simp only [PathSegment.isName_iff]
    decide
  have reread := again _ parsed
  dsimp only at reread
  have text : String.ofList (renderSegments segments) = "guarantors[7].fico_score" := by
    decide +kernel
  have rendered := written segments (List.cons_ne_nil _ _) named
  rw [text] at rendered
  exact ⟨named, parsed, reread, rendered⟩

end FieldPath

end Underwriting
