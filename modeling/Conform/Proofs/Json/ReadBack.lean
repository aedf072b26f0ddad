import Conform.Json.Parser
import Conform.Json.Printer

/-! Printed JSON is read back as the value that was written. A string is read from the spelling of
its characters, and a value from its text, whatever follows, so that it can stand in brackets. -/
namespace Conform.Json

/-- A character is no half of a surrogate pair, so its escape stands for itself. -/
theorem escapedChar?_toNat (c : Char) (rest : List Char) :
    escapedChar? c.toNat rest = (some c, rest) := by
  have valid : c.toNat < 0xD800 ∨ 0xDFFF < c.toNat := by
    rcases c.valid with low | ⟨high, _⟩
    · exact .inl low
    · exact .inr high
  have notLow : isLowSurrogate c.toNat = false := by
    simp only [isLowSurrogate, Bool.and_eq_false_iff, decide_eq_false_iff_not]
    omega
  have notHigh : isHighSurrogate c.toNat = false := by
    simp only [isHighSurrogate, Bool.and_eq_false_iff, decide_eq_false_iff_not]
    omega
  unfold escapedChar?
  rw [if_neg (by simp [notLow]), if_neg (by simp [notHigh]), Char.ofNat_toNat]

/-- The ways to write one character inside a string. -/
inductive Spells : List Char → Char → Prop where
  | plain (notQuote : c ≠ '"') (notSlash : c ≠ '\\') (visible : 0x20 ≤ c.toNat) : Spells [c] c
  | short (named : unescape? e = some c) : Spells ['\\', e] c
  | unit (spelled : codeUnit? w x y z = some c.toNat) : Spells ['\\', 'u', w, x, y, z] c

/-- A character is read from any of its spellings. -/
theorem Spells.stringBody_append (spells : Spells written c) (rest : List Char) :
    stringBody (written ++ rest) = (stringBody rest).map fun r => (r.1.map (c :: ·), r.2) := by
  cases spells with
  | plain notQuote notSlash visible =>
    have ordinary : (c == '\\' || c.toNat < 0x20) = false := by
      simp [notSlash, Nat.not_lt.mpr visible]
    rw [List.singleton_append, stringBody, ordinary]
    · rfl
    · exact fun same => absurd same notQuote
    · exact fun _ _ _ _ _ same _ => absurd same notSlash
    · exact fun _ _ same => absurd same notSlash
  | @short e _ named =>
    have notUnit : e ≠ 'u' := by
      rintro rfl
      cases named
    rw [List.cons_append, List.singleton_append, stringBody, named]
    exact fun _ _ _ _ _ same => absurd same notUnit
  | unit spelled =>
    simp only [List.cons_append, List.nil_append]
    rw [stringBody, spelled]
    dsimp only
    rw [escapedChar?_toNat]
    rfl

theorem codeUnit?_hexDigit : ∀ n < 0x20,
    codeUnit? '0' '0' (hexDigit (n / 16)) (hexDigit (n % 16)) = some n := by
  decide

theorem spells_escapeChar (c : Char) : Spells (escapeChar c) c := by
  unfold escapeChar
  split
  case h_8 notQuote notSlash _ _ _ _ _ =>
    by_cases control : c.toNat < 0x20
    · rw [if_pos control]
      exact .unit (codeUnit?_hexDigit _ control)
    · rw [if_neg control]
      exact .plain notQuote notSlash (Nat.le_of_not_lt control)
  all_goals exact .short rfl

/-- A string is read up to its closing quotation mark. -/
theorem stringBody_escaped (text rest : List Char) :
    stringBody (text.flatMap escapeChar ++ '"' :: rest) = some (some text, rest) := by
  induction text with
  | nil => rw [List.flatMap_nil, List.nil_append, stringBody]
  | cons c text ih =>
    rw [List.flatMap_cons, List.append_assoc, (spells_escapeChar c).stringBody_append, ih]
    rfl

theorem skipSpace_append (space : List Char) (blank : ∀ c ∈ space, isSpace c = true)
    (s : List Char) : skipSpace (space ++ s) = skipSpace s :=
  List.dropWhile_append_of_pos blank

theorem skipSpace_cons (visible : isSpace c = false) : skipSpace (c :: s) = c :: s :=
  List.dropWhile_cons_of_neg (by simp [visible])

theorem skipSpace_newline (indent : Nat) (s : List Char) :
    skipSpace (newline indent ++ s) = skipSpace s := by
  refine skipSpace_append _ (fun c member => ?_) s
  rcases List.mem_cons.mp member with rfl | among
  · rfl
  · rw [List.eq_of_mem_replicate among]
    rfl

theorem value_of_skipSpace (same : skipSpace s = skipSpace s') (fuel depth : Nat) :
    value fuel depth s = value fuel depth s' := by
  cases fuel with
  | zero => rfl
  | succ fuel => rw [value, value, same]

theorem items_newline (fuel depth indent : Nat) (s : List Char) :
    items fuel depth (newline indent ++ s) = items fuel depth s := by
  cases fuel with
  | zero => rfl
  | succ fuel => rw [items, items, value_of_skipSpace (skipSpace_newline indent s)]

theorem members_newline (fuel depth indent : Nat) (s : List Char) :
    members fuel depth (newline indent ++ s) = members fuel depth s := by
  cases fuel with
  | zero => rfl
  | succ fuel => rw [members, members, skipSpace_newline]

/-- The value is read from its text, whatever follows. -/
def ReadBack (depth : Nat) (j : Json) : Prop :=
  ∀ indent fuel rest, (j.pretty indent).length ≤ fuel →
    value (fuel + 1) depth (j.pretty indent ++ rest) = some (j, rest)

/-- Items are read up to the bracket that closes them. -/
theorem items_pretty (read : ∀ j ∈ item :: rest, ReadBack depth j) (outer : Nat)
    (after : List Char)
    (enough : (pretty indent item).length + (prettyItems indent rest).length ≤ fuel) :
    items (fuel + 2) depth (pretty indent item ++ (prettyItems indent rest ++
      (newline outer ++ ']' :: after))) = some (item :: rest, after) := by
  induction rest generalizing item fuel with
  | nil =>
    rw [items, read item List.mem_cons_self indent fuel _ (by omega)]
    simp (disch := decide) only [prettyItems, List.nil_append, skipSpace_newline, skipSpace_cons]
  | cons next rest ih =>
    simp only [prettyItems, List.length_append, List.length_cons] at enough
    obtain ⟨less, rfl⟩ : ∃ n, fuel = n + 1 := ⟨fuel - 1, by omega⟩
    have shorter : (next.pretty indent).length + (prettyItems indent rest).length ≤ less := by
      omega
    have later := ih (fun j among => read j (List.mem_cons_of_mem _ among)) shorter
    rw [items, read item List.mem_cons_self indent (less + 1) _ (by omega)]
    simp (disch := decide) only [prettyItems, List.cons_append, List.append_assoc, skipSpace_cons,
      items_newline, later, Option.map_some]

theorem length_prettyMember (indent : Nat) (member : String × Json) :
    (member.2.pretty indent).length ≤ (prettyMember indent member).length := by
  obtain ⟨key, j⟩ := member
  simp only [prettyMember, List.length_append]
  omega

/-- What is read once a member has been: the end of the object, or more members. -/
def afterMember (fuel depth : Nat) (member : String × Json) (rest : List Char) :
    Option (Option (List (String × Json)) × List Char) :=
  match skipSpace rest with
  | '\x7d' :: rest => some (some [member], rest)
  | ',' :: rest => (members fuel depth rest).map fun r => (r.1.map (member :: ·), r.2)
  | _ => none

/-- A member is read from its text. -/
theorem members_prettyMember
    (read : value fuel depth (pretty indent member.2 ++ rest) = some (member.2, rest)) :
    members (fuel + 1) depth (prettyMember indent member ++ rest) =
      afterMember fuel depth member rest := by
  obtain ⟨key, j⟩ := member
  have blank (s : List Char) : value fuel depth (' ' :: s) = value fuel depth s :=
    value_of_skipSpace (skipSpace_append [' '] (by simp [isSpace]) s) fuel depth
  simp (disch := decide) only [prettyMember, quote, List.cons_append, List.append_assoc,
    List.nil_append, members, skipSpace_cons, stringBody_escaped, blank, read, Option.map_some,
    String.ofList_toList, Option.bind_some]
  rfl

/-- Members are read up to the bracket that closes them. -/
theorem members_pretty (read : ∀ m ∈ member :: rest, ReadBack depth m.2) (outer : Nat)
    (after : List Char)
    (enough : (prettyMember indent member).length + (prettyMembers indent rest).length ≤ fuel) :
    members (fuel + 2) depth (prettyMember indent member ++ (prettyMembers indent rest ++
      (newline outer ++ '\x7d' :: after))) = some (some (member :: rest), after) := by
  have within := length_prettyMember indent member
  induction rest generalizing member fuel with
  | nil =>
    rw [members_prettyMember (read member List.mem_cons_self indent fuel _ (by omega))]
    simp (disch := decide) only [afterMember, prettyMembers, List.nil_append, skipSpace_newline,
      skipSpace_cons]
  | cons next rest ih =>
    simp only [prettyMembers, List.length_append, List.length_cons] at enough
    obtain ⟨less, rfl⟩ : ∃ n, fuel = n + 1 := ⟨fuel - 1, by omega⟩
    have shorter : (prettyMember indent next).length + (prettyMembers indent rest).length ≤ less :=
      by omega
    have later := ih (fun m among => read m (List.mem_cons_of_mem _ among)) shorter
      (length_prettyMember indent next)
    rw [members_prettyMember (read member List.mem_cons_self indent (less + 1) _ (by omega))]
    simp (disch := decide) only [afterMember, prettyMembers, List.cons_append, List.append_assoc,
      skipSpace_cons, members_newline, later, Option.map_some]

/-- Values with at most `depth` nested brackets, without numbers and without what cannot be read. -/
inductive Plain : (depth : Nat) → Json → Prop where
  | null : Plain depth .null
  | bool : Plain depth (.bool b)
  | string : Plain depth (.string text)
  | array {list : List Json} (plain : ∀ item ∈ list, Plain depth item) :
    Plain (depth + 1) (.array list)
  | object {list : List (String × Json)} (plain : ∀ member ∈ list, Plain depth member.2) :
    Plain (depth + 1) (.object list)

/-- A text that opens a value: it is nothing to skip and no closing bracket. -/
def Opens (s : List Char) : Prop := ∃ c rest, s = c :: rest ∧ isSpace c = false ∧ c ≠ ']'

theorem Plain.opens (plain : Plain depth j) (indent : Nat) (rest : List Char) :
    Opens (j.pretty indent ++ rest) := by
  cases plain with
  | null => exact ⟨_, _, rfl, rfl, by decide⟩
  | @bool _ b => cases b <;> exact ⟨_, _, rfl, rfl, by decide⟩
  | string => exact ⟨_, _, rfl, rfl, by decide⟩
  | @array _ list => cases list <;> exact ⟨_, _, rfl, rfl, by decide⟩
  | @object _ list => cases list <;> exact ⟨_, _, rfl, rfl, by decide⟩

theorem value_array (opens : Opens s) (inside : items fuel depth s = some (list, rest))
    (indent : Nat) :
    value (fuel + 1) (depth + 1) ('[' :: (newline indent ++ s)) = some (.array list, rest) := by
  obtain ⟨c, later, rfl, visible, notClosing⟩ := opens
  rw [value, skipSpace_cons rfl]
  simp only [skipSpace_newline, skipSpace_cons visible]
  split
  case h_1 closing => exact absurd (List.cons.inj closing).1 notClosing
  case h_2 => rw [inside, Option.map_some]

theorem value_object
    (inside : members fuel depth (prettyMember indent member ++ s) = some (some list, rest)) :
    value (fuel + 1) (depth + 1)
      ('\x7b' :: (newline indent ++ (prettyMember indent member ++ s))) =
        some (.object list, rest) := by
  obtain ⟨key, j⟩ := member
  rw [value, skipSpace_cons rfl]
  simp only [prettyMember, quote, List.cons_append] at inside ⊢
  simp (disch := decide) only [skipSpace_newline, skipSpace_cons]
  split
  case h_1 closing => exact absurd (List.cons.inj closing).1 (by decide)
  case h_2 => rw [inside, Option.map_some, orMisspelt]

theorem Plain.readBack (plain : Plain depth j) : ReadBack depth j := by
  induction plain with
  | null => exact fun _ _ _ _ => rfl
  | @bool _ b => cases b <;> exact fun _ _ _ _ => rfl
  | @string _ text =>
    intro indent fuel rest _
    rw [pretty, quote, List.append_assoc, List.cons_append, value, skipSpace_cons rfl]
    simp only [List.singleton_append, stringBody_escaped, Option.map_some, orMisspelt,
      Function.comp_apply, String.ofList_toList]
  | @array depth list plain ih =>
    intro indent fuel rest enough
    cases list with
    | nil => rfl
    | cons item list =>
      simp only [pretty, newline, List.length_append, List.length_cons] at enough
      obtain ⟨less, rfl⟩ : ∃ n, fuel = n + 2 := ⟨fuel - 2, by omega⟩
      have shorter : (item.pretty (indent + 1)).length +
          (prettyItems (indent + 1) list).length ≤ less := by omega
      have opens := (plain item List.mem_cons_self).opens (indent + 1)
      have inside := items_pretty ih indent rest shorter
      simpa only [pretty, List.cons_append, List.append_assoc, List.nil_append] using
        value_array (opens _) inside (indent + 1)
  | @object depth list plain ih =>
    intro indent fuel rest enough
    cases list with
    | nil => rfl
    | cons member list =>
      simp only [pretty, newline, List.length_append, List.length_cons] at enough
      obtain ⟨less, rfl⟩ : ∃ n, fuel = n + 2 := ⟨fuel - 2, by omega⟩
      have shorter : (prettyMember (indent + 1) member).length +
          (prettyMembers (indent + 1) list).length ≤ less := by omega
      have inside := members_pretty ih indent rest shorter
      simpa only [pretty, List.cons_append, List.append_assoc, List.nil_append] using
        value_object inside

/-- A document is read as the value that was written. -/
theorem parse?_document (plain : Plain maxDepth j) : parse? j.document = some j := by
  have read := plain.readBack 0 (2 * (j.pretty 0).length + 1) [] (by omega)
  rw [List.append_nil] at read
  simp only [parse?, document, String.toList_ofList, read]
  rfl

end Conform.Json
