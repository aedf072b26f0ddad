import Conform.Proofs.Schema.Accepted
import Conform.Proofs.Schema.Layout
import Conform.Proofs.Schema.Source
import Conform.Proofs.Text.Search

/-! Which tables a text declares. A line opens a block only where no block is open. Inside of an
open model or enumeration the line of another model is one more field or value. -/
namespace Conform.Schema.Source

open Text

/-- The line would open a block: it has a key word, a word for the name and a brace at its end,
which may touch the name. -/
structure IsHeader (line keyword word : List Char) : Prop where
  worded : ∃ rest, words (significant line) = keyword :: word :: rest
  braced : (significant line).getLast? = some '\x7b'
  named : dropEndWhile (· == '\x7b') word ≠ []

def headerName (word : List Char) : String := String.ofList (dropEndWhile (· == '\x7b') word)

/-- The header of the block that is open below the line. -/
def below (above : Option (List Char)) (line : List Char) : Option (List Char) :=
  if significant line = [] then above
  else match above with
    | none => some line
    | some header => if significant line = ['\x7d'] then none else some header

/-- The header of the block that the lines leave open. -/
def enclosing (lines : List (List Char)) : Option (List Char) := lines.foldl below none

/-- Some line outside of all blocks is the header of a model of that name. -/
def DeclaresTable (lines : List (List Char)) (name : String) : Prop :=
  ∃ before line after word, lines = before ++ line :: after ∧ enclosing before = none ∧
    IsHeader line "model".toList word ∧ headerName word = name

/-- A block as its header opens it. -/
def Block.fresh (keyword : List Char) (name : String) : Block :=
  if keyword = "model".toList then .model { name }
  else if keyword = "enum".toList then .enumeration { name, values := [] }
  else .other name

section header
variable {line keyword word : List Char}

theorem IsHeader.openBlock_eq (header : IsHeader line keyword word) (number : Nat) :
    openBlock number (significant line) = .ok (.fresh keyword (headerName word)) := by
  obtain ⟨⟨rest, worded⟩, braced, named⟩ := header
  have filled : (headerName word).isEmpty = false := by simp [headerName, named]
  unfold openBlock
  rw [worded, braced]
  simp only [List.head?_cons, Option.map_some]
  rw [if_neg (by simpa [headerName] using filled)]
  by_cases model : keyword = "model".toList
  · subst model
    rw [Block.fresh, if_pos rfl, String.ofList_toList]
    rfl
  · by_cases enumeration : keyword = "enum".toList
    · subst enumeration
      rw [Block.fresh, if_neg model, if_pos rfl, String.ofList_toList]
      rfl
    · have unlike {other : String} (different : keyword ≠ other.toList) :
          some (String.ofList keyword) ≠ some other := by
        intro same
        rw [← Option.some.inj same] at different
        exact different String.toList_ofList.symm
      rw [Block.fresh, if_neg model, if_neg enumeration]
      split
      case h_1 same => exact absurd same (unlike model)
      case h_2 same => exact absurd same (unlike enumeration)
      case h_3 => rfl

theorem exists_header_of_openBlock (opened : openBlock number (significant line) = .ok block) :
    ∃ keyword word, IsHeader line keyword word := by
  unfold openBlock at opened
  extract_lets name at opened
  split at opened
  case isTrue => cases opened
  case isFalse accepted =>
    simp only [Bool.or_eq_true, not_or, Bool.not_eq_true, bne_eq_false_iff_eq] at accepted
    obtain ⟨braced, filled⟩ := accepted
    cases worded : words (significant line) with
    | nil => simp [name, worded] at filled
    | cons keyword others =>
      cases others with
      | nil => simp [name, worded] at filled
      | cons word rest =>
        have named : dropEndWhile (· == '\x7b') word ≠ [] := by
          simpa [name, worded] using filled
        exact ⟨keyword, word, ⟨rest, worded⟩, braced, named⟩

theorem IsHeader.unique {keyword' word' : List Char} (header : IsHeader line keyword word)
    (other : IsHeader line keyword' word') : keyword = keyword' ∧ word = word' := by
  obtain ⟨_, worded⟩ := header.worded
  obtain ⟨_, worded'⟩ := other.worded
  rw [worded] at worded'
  cases worded'
  exact ⟨rfl, rfl⟩

theorem IsHeader.filled (header : IsHeader line keyword word) : significant line ≠ [] := by
  intro empty
  have braced := header.braced
  rw [empty] at braced
  cases braced

theorem IsHeader.not_closing (header : IsHeader line keyword word) :
    significant line ≠ ['\x7d'] := by
  intro closing
  have braced := header.braced
  rw [closing] at braced
  cases braced

end header

section moves
variable {p q : Progress} {number : Nat} {text : List Char}

/-- What a line does to the block that it stands in. -/
inductive Block.Takes (number : Nat) (text : List Char) : Block → Block → Prop where
  | model {t t' : Table} (read : readModelLine t number text = .ok t') :
      Takes number text (.model t) (.model t')
  | enumeration (e : Enumeration) :
      Takes number text (.enumeration e) (.enumeration (readEnumLine e text))
  | other (title : String) : Takes number text (.other title) (.other title)

/-- What a line does to what has been read. -/
inductive Progress.Moves (number : Nat) (text : List Char) (p : Progress) : Progress → Prop where
  | passes (empty : text = []) : Moves number text p p
  | opens {opened : Block} (filled : text ≠ []) (between : p.block = none)
      (opens : openBlock number text = .ok opened) :
      Moves number text p { p with block := some (opened, number) }
  | closes {current : Block} {start : Nat} (inside : p.block = some (current, start))
      (closing : text = ['\x7d']) : Moves number text p (p.close current)
  | continues {current next : Block} {start : Nat} (filled : text ≠ [])
      (inside : p.block = some (current, start)) (open' : text ≠ ['\x7d'])
      (takes : current.Takes number text next) :
      Moves number text p { p with block := some (next, start) }

theorem Progress.with_block {block : Block × Nat} (inside : p.block = some block) :
    { p with block := some block } = p := by
  rw [← inside]

theorem Progress.moves_of_step (done : p.step number text = .ok q) : p.Moves number text q := by
  unfold Progress.step at done
  split at done
  case isTrue empty =>
    cases done
    exact .passes (List.isEmpty_iff.mp empty)
  case isFalse filled =>
    have filled : text ≠ [] := by simpa using filled
    split at done
    case h_1 between =>
      cases opens : openBlock number text <;> rw [opens] at done <;> cases done
      exact .opens filled between opens
    case h_2 block start inside =>
      split at done
      case isTrue closing =>
        cases done
        exact .closes inside (by simpa using closing)
      case isFalse open' =>
        have open' : text ≠ ['\x7d'] := by simpa using open'
        split at done
        case h_1 table =>
          cases read : readModelLine table number text <;> rw [read] at done <;> cases done
          exact .continues filled inside open' (.model read)
        case h_2 e =>
          cases done
          exact .continues filled inside open' (.enumeration e)
        case h_3 title =>
          cases done
          have moves : p.Moves number text { p with block := some (.other title, start) } :=
            .continues filled inside open' (.other title)
          rwa [Progress.with_block inside] at moves

end moves

section grows
variable {p q r : Progress} {number : Nat} {text : List Char}

/-- The second table is the first one with more read into it. -/
structure Table.Grows (t t' : Table) : Prop where
  name : t'.name = t.name
  fields : t.fields <+: t'.fields

structure Enumeration.Grows (e e' : Enumeration) : Prop where
  name : e'.name = e.name
  values : e.values <+: e'.values

def Block.enumeration? : Block → Option Enumeration
  | enumeration value => some value
  | model _ => none
  | other _ => none

namespace Progress

/-- The tables read so far, the one of the open block among them. -/
def declared (p : Progress) : List Table := p.tables ++ (p.block.bind (·.1.table?)).toList

def enumerated (p : Progress) : List Enumeration :=
  p.enums ++ (p.block.bind (·.1.enumeration?)).toList

/-- Nothing is lost of what the first one has read. -/
structure Grows (p q : Progress) : Prop where
  tables : ∀ t ∈ p.declared, ∃ t' ∈ q.declared, Table.Grows t t'
  enums : ∀ e ∈ p.enumerated, ∃ e' ∈ q.enumerated, Enumeration.Grows e e'

end Progress

theorem readModelLine_grows {t t' : Table} (read : readModelLine t number text = .ok t') :
    Table.Grows t t' := by
  unfold readModelLine at read
  split at read
  case isTrue =>
    cases read
    unfold readBlockAttribute
    split
    case h_1 => exact ⟨rfl, List.prefix_rfl⟩
    case h_2 =>
      split
      case h_1 => exact ⟨rfl, List.prefix_rfl⟩
      case h_2 => split <;> exact ⟨rfl, List.prefix_rfl⟩
  case isFalse =>
    split at read <;> cases read
    exact ⟨rfl, List.prefix_append _ _⟩

theorem readEnumLine_grows (e : Enumeration) (text : List Char) :
    Enumeration.Grows e (readEnumLine e text) := by
  unfold readEnumLine
  split
  case isTrue => exact ⟨rfl, List.prefix_rfl⟩
  case isFalse =>
    split
    · exact ⟨rfl, List.prefix_append _ _⟩
    · exact ⟨rfl, List.prefix_rfl⟩

namespace Progress

theorem block_close (p : Progress) (block : Block) : (p.close block).block = none := by
  cases block <;> rfl

theorem declared_close {block : Block} (inside : p.block = some (block, start)) :
    (p.close block).declared = p.declared ∧ (p.close block).enumerated = p.enumerated := by
  cases block <;>
    simp [close, declared, enumerated, inside, Block.table?, Block.enumeration?]

theorem Grows.refl (p : Progress) : p.Grows p where
  tables t member := ⟨t, member, rfl, List.prefix_rfl⟩
  enums e member := ⟨e, member, rfl, List.prefix_rfl⟩

theorem Grows.trans (first : p.Grows q) (second : q.Grows r) : p.Grows r := by
  constructor
  · intro t member
    obtain ⟨t', among, grows⟩ := first.tables t member
    obtain ⟨t'', there, more⟩ := second.tables t' among
    exact ⟨t'', there, more.name.trans grows.name, grows.fields.trans more.fields⟩
  · intro e member
    obtain ⟨e', among, grows⟩ := first.enums e member
    obtain ⟨e'', there, more⟩ := second.enums e' among
    exact ⟨e'', there, more.name.trans grows.name, grows.values.trans more.values⟩

theorem Moves.grows (moves : p.Moves number text q) : p.Grows q := by
  cases moves with
  | passes => exact .refl p
  | opens _ between _ =>
    constructor
    · intro t member
      have old : t ∈ p.tables := by simpa [declared, between] using member
      exact ⟨t, List.mem_append_left _ old, rfl, List.prefix_rfl⟩
    · intro e member
      have old : e ∈ p.enums := by simpa [enumerated, between] using member
      exact ⟨e, List.mem_append_left _ old, rfl, List.prefix_rfl⟩
  | closes inside =>
    obtain ⟨tables, enums⟩ := declared_close inside
    constructor
    · rw [tables]
      exact (Grows.refl p).tables
    · rw [enums]
      exact (Grows.refl p).enums
  | continues _ inside _ takes =>
    constructor
    · intro t member
      rcases List.mem_append.mp member with old | own
      · exact ⟨t, List.mem_append_left _ old, rfl, List.prefix_rfl⟩
      · cases takes with
        | @model old new read =>
          obtain rfl : t = old := by simpa [inside, Block.table?] using own
          exact ⟨new, List.mem_append_right _ (.head _), readModelLine_grows read⟩
        | enumeration | other => simp [inside, Block.table?] at own
    · intro e member
      rcases List.mem_append.mp member with old | own
      · exact ⟨e, List.mem_append_left _ old, rfl, List.prefix_rfl⟩
      · cases takes with
        | enumeration old =>
          obtain rfl : e = old := by simpa [inside, Block.enumeration?] using own
          exact ⟨_, List.mem_append_right _ (.head _), readEnumLine_grows e text⟩
        | model | other => simp [inside, Block.enumeration?] at own

theorem grows_of_run {lines : List (List Char)} (done : p.run number lines = .ok q) :
    p.Grows q := by
  induction lines generalizing p number with
  | nil =>
    cases done
    exact .refl _
  | cons line lines ih =>
    obtain ⟨next, first, rest⟩ := ok_of_bind done
    exact (moves_of_step first).grows.trans (ih rest)

end Progress

end grows

section reads
variable {p q : Progress} {number : Nat} {above : List (List Char)} {line : List Char}

theorem enclosing_concat (above : List (List Char)) (line : List Char) :
    enclosing (above ++ [line]) = below (enclosing above) line := by
  simp [enclosing]

theorem DeclaresTable.append {name : String} (declares : DeclaresTable above name)
    (more : List (List Char)) : DeclaresTable (above ++ more) name := by
  obtain ⟨before, line, after, word, rfl, between, header, named⟩ := declares
  exact ⟨before, line, after ++ more, word, by simp, between, header, named⟩

/-- The block that a header opened, whatever has been read into it since. -/
structure Block.OpenedBy (block : Block) (keyword word : List Char) : Prop where
  kind : block.kind = (Block.fresh keyword (headerName word)).kind
  name : block.name = headerName word

/-- What has been read goes together with the lines that it has been read from. -/
structure Progress.Reads (above : List (List Char)) (p : Progress) : Prop where
  outside : p.block = none → enclosing above = none
  inside : ∀ block start, p.block = some (block, start) → ∃ header keyword word,
    enclosing above = some header ∧ IsHeader header keyword word ∧ block.OpenedBy keyword word
  declared : ∀ t ∈ p.declared, DeclaresTable above t.name

theorem Block.openedBy_fresh (keyword word : List Char) :
    (Block.fresh keyword (headerName word)).OpenedBy keyword word := by
  refine ⟨rfl, ?_⟩
  unfold Block.fresh
  split
  · rfl
  · split <;> rfl

theorem Block.OpenedBy.model {block : Block} (opened : block.OpenedBy "model".toList word) :
    ∃ t, block = .model t ∧ t.name = headerName word := by
  cases block with
  | model t => exact ⟨t, rfl, opened.name⟩
  | enumeration | other => cases opened.kind

theorem Block.OpenedBy.enumeration {block : Block} (opened : block.OpenedBy "enum".toList word) :
    ∃ e, block = .enumeration e ∧ e.name = headerName word := by
  cases block with
  | enumeration e => exact ⟨e, rfl, opened.name⟩
  | model | other => cases opened.kind

theorem Block.Takes.openedBy {block next : Block} (takes : block.Takes number text next)
    (opened : block.OpenedBy keyword word) : next.OpenedBy keyword word := by
  cases takes with
  | model read => exact ⟨opened.kind, (readModelLine_grows read).name.trans opened.name⟩
  | enumeration e => exact ⟨opened.kind, (readEnumLine_grows e text).name.trans opened.name⟩
  | other => exact opened

namespace Progress

theorem Reads.step (reads : p.Reads above) (moves : p.Moves number (significant line) q) :
    q.Reads (above ++ [line]) := by
  have kept (t : Table) (member : t ∈ p.declared) : DeclaresTable (above ++ [line]) t.name :=
    (reads.declared t member).append [line]
  cases moves with
  | passes empty =>
    have same : enclosing (above ++ [line]) = enclosing above := by
      simp [enclosing_concat, below, empty]
    exact ⟨same ▸ reads.outside, same ▸ reads.inside, kept⟩
  | opens filled between opens =>
    have outside := reads.outside between
    obtain ⟨keyword, word, header⟩ := exists_header_of_openBlock opens
    obtain rfl := Except.ok.inj ((header.openBlock_eq number).symm.trans opens)
    have opened : enclosing (above ++ [line]) = some line := by
      simp [enclosing_concat, below, filled, outside]
    refine ⟨nofun, ?_, ?_⟩
    · rintro block start ⟨⟩
      exact ⟨line, keyword, word, opened, header, Block.openedBy_fresh keyword word⟩
    · intro t member
      rcases List.mem_append.mp member with old | own
      · exact kept t (List.mem_append_left _ old)
      · by_cases model : keyword = "model".toList
        · obtain rfl : t = { name := headerName word } := by
            simpa [Block.fresh, model, Block.table?] using own
          subst model
          exact ⟨above, line, [], word, rfl, outside, header, rfl⟩
        · exfalso
          revert own
          simp only [Block.fresh, if_neg model, Option.bind_some]
          split <;> simp [Block.table?]
  | closes inside closing =>
    obtain ⟨tables, _⟩ := declared_close inside
    obtain ⟨header, _, _, enclosed, _⟩ := reads.inside _ _ inside
    have outside : enclosing (above ++ [line]) = none := by
      simp [enclosing_concat, below, enclosed, closing]
    refine ⟨fun _ => outside, ?_, ?_⟩
    · intro block start current
      rw [block_close] at current
      cases current
    · rw [tables]
      exact kept
  | continues filled inside open' takes =>
    obtain ⟨header, keyword, word, enclosed, headed, opened⟩ := reads.inside _ _ inside
    have still : enclosing (above ++ [line]) = some header := by
      simp [enclosing_concat, below, enclosed, filled, open']
    refine ⟨nofun, ?_, ?_⟩
    · rintro block start ⟨⟩
      exact ⟨header, keyword, word, still, headed, takes.openedBy opened⟩
    · intro t member
      rcases List.mem_append.mp member with old | own
      · exact kept t (List.mem_append_left _ old)
      · cases takes with
        | @model old new read =>
          obtain rfl : t = new := by simpa [Block.table?] using own
          rw [(readModelLine_grows read).name]
          refine kept old (List.mem_append_right _ ?_)
          simp [inside, Block.table?]
        | enumeration | other => simp [Block.table?] at own

theorem Reads.run {lines : List (List Char)} (reads : p.Reads above)
    (done : p.run number lines = .ok q) : q.Reads (above ++ lines) := by
  induction lines generalizing p number above with
  | nil =>
    cases done
    rwa [List.append_nil]
  | cons line lines ih =>
    obtain ⟨next, first, rest⟩ := ok_of_bind done
    have later := ih (reads.step (moves_of_step first)) rest
    rwa [List.append_assoc] at later

theorem reads_start : ({} : Progress).Reads [] := ⟨fun _ => rfl, nofun, nofun⟩

end Progress

end reads

section absorbed
variable {line keyword word : List Char} {p q : Progress} {number : Nat}

theorem words_visible (visible : isBlank c = false) (s : List Char) :
    ∃ rest others, words (c :: s) = (c :: rest) :: others := by
  unfold words pieces
  rw [if_neg (by simp [visible])]
  cases pieces isBlank s <;> simp

/-- A header is no attribute. -/
theorem IsHeader.unmarked (header : IsHeader line "model".toList word) :
    (significant line).head? ≠ some '@' := by
  intro marked
  obtain ⟨rest, worded⟩ := header.worded
  obtain ⟨s, text⟩ := List.head?_eq_some_iff.mp marked
  obtain ⟨_, _, first⟩ := words_visible (c := '@') rfl s
  rw [text, first] at worded
  cases worded

/-- In a model a header is read as a field of the name `model`. -/
theorem IsHeader.field (header : IsHeader line "model".toList word) {t t' : Table}
    (read : readModelLine t number (significant line) = .ok t') :
    ∃ f ∈ t'.fields, f.name = "model" ∧ f.type = String.ofList word := by
  obtain ⟨rest, worded⟩ := header.worded
  have plain : after ['@', '@'] (significant line) = none := by
    by_contra found
    obtain ⟨s, begins⟩ := Option.ne_none_iff_exists'.mp found
    exact header.unmarked (by rw [eq_append_of_after begins]; rfl)
  rw [readModelLine, if_neg (by simp [plain]), worded] at read
  cases read
  exact ⟨_, List.mem_append_right _ (.head _), rfl, rfl⟩

theorem IsHeader.value (header : IsHeader line "model".toList word) (e : Enumeration) :
    "model" ∈ (readEnumLine e (significant line)).values := by
  obtain ⟨rest, worded⟩ := header.worded
  rw [readEnumLine, if_neg (by simpa using header.unmarked), worded]
  exact List.mem_append_right _ (.head _)

/-- Where no block is open a header opens one, and elsewhere the open block takes it in. -/
theorem IsHeader.moves (header : IsHeader line keyword word)
    (moves : p.Moves number (significant line) q) :
    (p.block = none ∧ q = { p with block := some (.fresh keyword (headerName word), number) }) ∨
      ∃ current next start, p.block = some (current, start) ∧
        current.Takes number (significant line) next ∧
          q = { p with block := some (next, start) } := by
  cases moves with
  | passes empty => exact absurd empty header.filled
  | opens _ between opens =>
    obtain rfl := Except.ok.inj ((header.openBlock_eq number).symm.trans opens)
    exact .inl ⟨between, rfl⟩
  | closes _ closing => exact absurd closing header.not_closing
  | continues _ inside _ takes => exact .inr ⟨_, _, _, inside, takes, rfl⟩

end absorbed

section accepted
variable {source : String} {tables : List Table} {enums : List Enumeration} {m : Model}
  {before after : List (List Char)} {line word : List Char}

/-- In the end all blocks are closed, and everything that was read on the way is there. -/
theorem exists_run_of_read (done : read source = .ok (tables, enums)) :
    ∃ p, Progress.run {} 1 (lines source.toList) = .ok p ∧ p.block = none ∧
      p.declared = tables ∧ p.enumerated = enums := by
  rw [read_eq_readLines] at done
  obtain ⟨p, run, finished⟩ := ok_of_bind done
  obtain ⟨_, _, block⟩ := p
  cases block <;> cases finished
  exact ⟨_, run, rfl, List.append_nil _, List.append_nil _⟩

/-- What has been read above a line, and what the line does to it. -/
theorem exists_moves_of_read (done : read source = .ok (tables, enums))
    (split : lines source.toList = before ++ line :: after) :
    ∃ (p q : Progress) (number : Nat), p.Reads before ∧ p.Moves number (significant line) q ∧
      (∀ t ∈ q.declared, ∃ t' ∈ tables, Table.Grows t t') ∧
        ∀ e ∈ q.enumerated, ∃ e' ∈ enums, Enumeration.Grows e e' := by
  obtain ⟨last, run, _, rfl, rfl⟩ := exists_run_of_read done
  rw [split, Progress.run_append] at run
  obtain ⟨p, above, rest⟩ := ok_of_bind run
  obtain ⟨q, step, later⟩ := ok_of_bind rest
  have grows := Progress.grows_of_run later
  exact ⟨p, q, _, Progress.reads_start.run above, Progress.moves_of_step step, grows.tables,
    grows.enums⟩

theorem declaresTable_iff (done : read source = .ok (tables, enums)) (name : String) :
    name ∈ tables.map (·.name) ↔ DeclaresTable (lines source.toList) name := by
  constructor
  · intro member
    obtain ⟨t, among, rfl⟩ := List.mem_map.mp member
    obtain ⟨p, run, _, rfl, _⟩ := exists_run_of_read done
    exact (Progress.reads_start.run run).declared t among
  · rintro ⟨before, line, after, word, split, between, header, rfl⟩
    obtain ⟨p, q, number, reads, moves, kept, _⟩ := exists_moves_of_read done split
    rcases header.moves moves with ⟨_, rfl⟩ | ⟨_, _, _, inside, _⟩
    · obtain ⟨t, among, grows⟩ := kept { name := headerName word }
        (List.mem_append_right _ (.head _))
      exact List.mem_map.mpr ⟨t, among, grows.name⟩
    · obtain ⟨_, _, _, enclosed, _⟩ := reads.inside _ _ inside
      cases between.symm.trans enclosed

/-- A header in an open model is one more field of it, and in an open enumeration one more
value. -/
theorem absorbed_of_read (done : read source = .ok (tables, enums))
    (split : lines source.toList = before ++ line :: after)
    (header : IsHeader line "model".toList word) (enclosed : enclosing before = some above)
    (opened : IsHeader above keyword aboveWord) :
    (keyword = "model".toList → ∃ t ∈ tables, t.name = headerName aboveWord ∧
      ∃ f ∈ t.fields, f.name = "model" ∧ f.type = String.ofList word) ∧
    (keyword = "enum".toList →
      ∃ e ∈ enums, e.name = headerName aboveWord ∧ "model" ∈ e.values) := by
  obtain ⟨p, q, number, reads, moves, tablesKept, enumsKept⟩ := exists_moves_of_read done split
  rcases header.moves moves with ⟨between, _⟩ | ⟨current, next, start, inside, takes, rfl⟩
  · cases (reads.outside between).symm.trans enclosed
  · obtain ⟨_, keyword', aboveWord', enclosed', opened', openedBy⟩ := reads.inside _ _ inside
    obtain rfl := Option.some.inj (enclosed.symm.trans enclosed')
    obtain ⟨rfl, rfl⟩ := opened.unique opened'
    refine ⟨?_, ?_⟩
    · rintro rfl
      obtain ⟨t, rfl, named⟩ := openedBy.model
      cases takes with
      | @model _ t' read =>
        obtain ⟨f, field, own, typed⟩ := header.field read
        obtain ⟨t'', among, grows⟩ := tablesKept t' (List.mem_append_right _ (.head _))
        have name := grows.name.trans (readModelLine_grows read).name
        exact ⟨t'', among, name.trans named, f, grows.fields.subset field, own, typed⟩
    · rintro rfl
      obtain ⟨e, rfl, named⟩ := openedBy.enumeration
      cases takes with
      | enumeration =>
        obtain ⟨e', among, grows⟩ := enumsKept _ (List.mem_append_right _ (.head _))
        have name := grows.name.trans (readEnumLine_grows e (significant line)).name
        exact ⟨e', among, name.trans named, grows.values.subset (header.value e)⟩

/-- Normalization keeps the fields of a table, with their types bare. -/
theorem exists_field_of_normalize (normal : normalize tables enums = .ok m) (member : t ∈ tables)
    (field : f ∈ t.fields) : ∃ t' ∈ m.tables, t'.name = t.name ∧ ∃ f' ∈ t'.fields,
      f'.name = f.name ∧ f'.type = String.ofList (splitMarkers f.type.toList).base := by
  obtain ⟨_, classified, done, _, rfl⟩ := normalize_ok_iff.mp normal
  obtain ⟨t', among, found⟩ := result_of_mapM_ok done member
  obtain ⟨fields, traversed, rfl⟩ := Table.classify_ok_iff.mp found
  obtain ⟨f', listed, told⟩ := result_of_mapM_ok traversed field
  refine ⟨_, List.mem_map_of_mem among, rfl, f', listed, ?_⟩
  unfold Field.classify at told
  dsimp only at told
  split at told <;> split at told <;> cases told <;> exact ⟨rfl, rfl⟩

end accepted

/-- A model is kept exactly when a line outside of all blocks declares it. In a model that is not
closed before it, it becomes a field, and in an enumeration a value. -/
theorem declared_model_kept_iff {source : String} {m : Model}
    (accepted : Model.ofSource source = .ok m) {before after : List (List Char)}
    {line word : List Char} (split : lines source.toList = before ++ line :: after)
    (header : IsHeader line "model".toList word) :
    (headerName word ∈ m.tableNames ↔ DeclaresTable (lines source.toList) (headerName word)) ∧
    ∀ above keyword aboveWord, enclosing before = some above → IsHeader above keyword aboveWord →
      (keyword = "model".toList → ∃ t ∈ m.tables, t.name = headerName aboveWord ∧
        ∃ f ∈ t.fields, f.name = "model" ∧ f.type = String.ofList (splitMarkers word).base) ∧
      (keyword = "enum".toList →
        ∃ e ∈ m.enums, e.name = headerName aboveWord ∧ "model" ∈ e.values) := by
  obtain ⟨⟨tables, enums⟩, done, normal⟩ := ok_of_bind accepted
  have names := (normalize_isNormal normal).1
  refine ⟨?_, ?_⟩
  · rw [names]
    exact declaresTable_iff done (headerName word)
  · intro above keyword aboveWord enclosed opened
    obtain ⟨asField, asValue⟩ := absorbed_of_read done split header enclosed opened
    refine ⟨?_, ?_⟩
    · intro model
      obtain ⟨t, member, named, f, field, own, typed⟩ := asField model
      obtain ⟨t', among, same, f', listed, fieldName, fieldType⟩ :=
        exists_field_of_normalize normal member field
      refine ⟨t', among, same.trans named, f', listed, fieldName.trans own, ?_⟩
      rw [fieldType, typed, String.toList_ofList]
    · intro enumeration
      obtain ⟨_, _, _, _, rfl⟩ := normalize_ok_iff.mp normal
      exact asValue enumeration

/-- Posts and users, where the model of the posts is not closed before that of the users opens. -/
def unclosedPosts : String :=
  "model Post \x7b\n  id Int @id\nmodel User \x7b\n  name String\n\x7d\n"

def unclosedModel : Model where
  tables := [{
    name := "Post"
    fields := [{ name := "id", type := "Int", isId := true }, { name := "model", type := "User" },
      { name := "name", type := "String" }]
    idFields := ["id"] }]

theorem user_header : IsHeader "model User \x7b".toList "model".toList "User".toList :=
  ⟨⟨[['\x7b']], by decide +kernel⟩, by decide +kernel, by decide +kernel⟩

/-- The text is accepted, and there is no table of the users. -/
theorem unclosed_model_accepted : Model.ofSource unclosedPosts = .ok unclosedModel ∧
    (∃ after, lines unclosedPosts.toList =
      ["model Post \x7b".toList, "  id Int @id".toList] ++ "model User \x7b".toList :: after) ∧
    enclosing ["model Post \x7b".toList, "  id Int @id".toList] = some "model Post \x7b".toList ∧
    IsHeader "model User \x7b".toList "model".toList "User".toList ∧
    headerName "User".toList = "User" ∧ "User" ∉ unclosedModel.tableNames := by
  refine ⟨by decide +kernel, ⟨["  name String".toList, ['\x7d'], []], by decide +kernel⟩,
    by decide +kernel, user_header, by decide +kernel, by decide +kernel⟩

theorem unclosed_model_absorbed : Model.ofSource unclosedPosts = .ok unclosedModel ∧
    IsHeader "model User \x7b".toList "model".toList "User".toList ∧
    ¬DeclaresTable (lines unclosedPosts.toList) (headerName "User".toList) ∧
    ∃ t ∈ unclosedModel.tables, t.name = "Post" ∧
      ∃ f ∈ t.fields, f.name = "model" ∧ f.type = "User" := by
  have accepted : Model.ofSource unclosedPosts = .ok unclosedModel := by decide +kernel
  have split : lines unclosedPosts.toList =
      ["model Post \x7b".toList, "  id Int @id".toList] ++
        "model User \x7b".toList :: ["  name String".toList, ['\x7d'], []] := by decide +kernel
  have opened : IsHeader "model Post \x7b".toList "model".toList "Post".toList :=
    ⟨⟨[['\x7b']], by decide +kernel⟩, by decide +kernel, by decide +kernel⟩
  obtain ⟨kept, absorbed⟩ := declared_model_kept_iff accepted split user_header
  have missing : headerName "User".toList ∉ unclosedModel.tableNames := by decide +kernel
  have enclosed : enclosing ["model Post \x7b".toList, "  id Int @id".toList] =
      some "model Post \x7b".toList := by decide +kernel
  exact ⟨accepted, user_header, mt kept.mpr missing, (absorbed _ _ _ enclosed opened).1 rfl⟩

end Conform.Schema.Source
