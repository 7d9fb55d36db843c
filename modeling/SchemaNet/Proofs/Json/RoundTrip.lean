import SchemaNet.Proofs.Json.Literals

/-!
JSON values and their compact text. The text of a value is read back as this value; the
length of the text is fuel enough for its parts, however they are nested.
-/

namespace SchemaNet.Json

/-- A value without an ill-formed part, whose numbers are numbers of the grammar. -/
inductive Written : Json → Prop
  | null : Written .null
  | bool (value : Bool) : Written (.bool value)
  | num {value : Number} (h : value.WellFormed) : Written (.num value)
  | str (value : String) : Written (.str value)
  | arr {items : List Json} (h : ∀ item ∈ items, Written item) : Written (.arr items)
  | obj {members : List (String × Json)} (h : ∀ member ∈ members, Written member.2) :
    Written (.obj members)

/-! ## The characters of a text -/

/-- Parts with a comma before each of them, up to the closing bracket. -/
def closing (right : Char) : List (List Char) → List Char
  | [] => [right]
  | part :: rest => ',' :: (part ++ closing right rest)

def enclosed (left right : Char) : List (List Char) → List Char
  | [] => [left, right]
  | part :: rest => left :: (part ++ closing right rest)

def quoted (text : String) : List Char := '"' :: (text.toList.flatMap escapeChar ++ ['"'])

mutual

def chars : Json → List Char
  | .null => ['n', 'u', 'l', 'l']
  | .bool true => ['t', 'r', 'u', 'e']
  | .bool false => ['f', 'a', 'l', 's', 'e']
  | .num value => value.chars
  | .str value => quoted value
  | .arr items => enclosed '[' ']' (itemChars items)
  | .obj members => enclosed '\x7b' '\x7d' (memberChars members)
  | .illFormed => ['n', 'u', 'l', 'l']

def itemChars : List Json → List (List Char)
  | [] => []
  | item :: rest => item.chars :: itemChars rest

def memberChars : List (String × Json) → List (List Char)
  | [] => []
  | (key, value) :: rest => (quoted key ++ ':' :: value.chars) :: memberChars rest

end

def named (member : String × Json) : List Char := quoted member.1 ++ ':' :: member.2.chars

theorem intercalate_closing (right : Char) (part : List Char) (rest : List (List Char)) :
    [','].intercalate (part :: rest) ++ [right] = part ++ closing right rest := by
  induction rest generalizing part with
  | nil => simp [closing, List.intercalate]
  | cons next more ih =>
    have later := ih next
    rw [closing, ← later]
    simp [List.intercalate, List.intersperse]

theorem toList_enclose (level : Nat) (left right : Char) (items : List String) :
    (Layout.compact.enclose level (String.singleton left) (String.singleton right) items).toList =
      enclosed left right (items.map String.toList) := by
  cases items with
  | nil => simp [Layout.enclose, enclosed]
  | cons item rest =>
    have own : (item :: rest).map (Layout.compact.line (level + 1) ++ ·) = item :: rest := by
      simp [Layout.compact]
    have line : (Layout.compact.line level).toList = [] := rfl
    rw [Layout.enclose, own, if_neg (by simp)]
    simp [line, enclosed, String.toList_intercalate, ← intercalate_closing]

theorem toList_quote (text : String) : (quote text).toList = quoted text := by
  simp [quote, quoted]

mutual

theorem toList_write (level : Nat) : (value : Json) →
    (value.write .compact level).toList = value.chars
  | .null => by simp [write, chars]
  | .bool true => by simp [write, chars]
  | .bool false => by simp [write, chars]
  | .num value => by simp [write, chars, Number.text]
  | .str value => by simp [write, chars, toList_quote]
  | .arr items => by
    rw [write, chars, ← toList_writeItems (level + 1) items]
    exact toList_enclose level '[' ']' _
  | .obj members => by
    rw [write, chars, ← toList_writeMembers (level + 1) members]
    exact toList_enclose level '\x7b' '\x7d' _
  | .illFormed => by simp [write, chars]

theorem toList_writeItems (level : Nat) : (items : List Json) →
    (writeItems .compact level items).map String.toList = itemChars items
  | [] => rfl
  | item :: rest => by
    rw [writeItems, itemChars, List.map_cons, toList_write level item,
      toList_writeItems level rest]

theorem toList_writeMembers (level : Nat) : (members : List (String × Json)) →
    (writeMembers .compact level members).map String.toList = memberChars members
  | [] => rfl
  | (key, value) :: rest => by
    rw [writeMembers, memberChars, List.map_cons, toList_writeMembers level rest,
      String.toList_append, String.toList_append, toList_quote, toList_write level value]
    simp [Layout.compact]

end

theorem toList_compact (value : Json) : value.compact.toList = value.chars :=
  toList_write 0 value

/-! ## Reading the characters -/

theorem itemChars_eq_map (items : List Json) : itemChars items = items.map chars := by
  induction items with
  | nil => rfl
  | cons item rest ih => rw [itemChars, ih, List.map_cons]

theorem memberChars_eq_map (members : List (String × Json)) :
    memberChars members = members.map named := by
  induction members with
  | nil => rfl
  | cons member rest ih => rw [memberChars, ih, List.map_cons, named]

/-- A text that begins with a value: with neither white space nor a closing bracket. -/
def Opens (text : List Char) : Prop :=
  ∃ c more, text = c :: more ∧ isBlank c = false ∧ c ≠ ']' ∧ c ≠ '}'

theorem Opens.append {text : List Char} (h : Opens text) (rest : List Char) :
    Opens (text ++ rest) := by
  obtain ⟨c, more, rfl, head⟩ := h
  exact ⟨c, more ++ rest, rfl, head⟩

theorem Opens.length_pos {text : List Char} (h : Opens text) : 0 < text.length := by
  obtain ⟨c, more, rfl, -⟩ := h
  exact Nat.succ_pos _

theorem Opens.skipBlank {text : List Char} (h : Opens text) : skipBlank text = text := by
  obtain ⟨c, more, rfl, filled, -⟩ := h
  simp [Json.skipBlank, filled]

theorem Number.head_chars {number : Number} (h : number.WellFormed) :
    ∃ c more, number.chars = c :: more ∧ (c = '-' ∨ c.isDigit) := by
  obtain ⟨c, more, same⟩ := List.exists_cons_of_ne_nil h.whole_ne
  have digit : c.isDigit := h.whole_digits c (by simp [same])
  unfold Number.chars
  cases number.negative with
  | true => exact ⟨'-', _, rfl, .inl rfl⟩
  | false => exact ⟨c, _, by rw [same]; rfl, .inr digit⟩

theorem opens_of_isDigit {c : Char} {more : List Char} (h : c = '-' ∨ c.isDigit) :
    Opens (c :: more) := by
  refine ⟨c, more, rfl, ?_⟩
  rcases h with rfl | digit
  · decide
  · refine ⟨?_, ?_, ?_⟩
    · simp only [isBlank, Bool.or_eq_false_iff, beq_eq_false_iff_ne]
      refine ⟨⟨⟨?_, ?_⟩, ?_⟩, ?_⟩ <;> rintro rfl <;> exact absurd digit (by decide)
    · rintro rfl
      exact absurd digit (by decide)
    · rintro rfl
      exact absurd digit (by decide)

theorem Written.opens {value : Json} (h : Written value) : Opens value.chars := by
  cases h with
  | null => exact ⟨_, _, rfl, by decide⟩
  | bool value => cases value <;> exact ⟨_, _, rfl, by decide⟩
  | num h =>
    obtain ⟨c, more, same, digit⟩ := Number.head_chars h
    rw [chars, same]
    exact opens_of_isDigit digit
  | str value => exact ⟨_, _, rfl, by decide⟩
  | @arr items _ =>
    rw [chars]
    cases itemChars items <;> exact ⟨_, _, rfl, by decide⟩
  | @obj members _ =>
    rw [chars]
    cases memberChars members <;> exact ⟨_, _, rfl, by decide⟩

/-- The text of a value is read as this value, whatever may follow it. -/
def Reads (value : Json) : Prop :=
  ∀ fuel rest, value.chars.length ≤ fuel → Ends rest →
    readValue fuel (value.chars ++ rest) = some (value, rest)

theorem ends_closing (right : Char) (bracket : right = ']' ∨ right = '}')
    (parts : List (List Char)) (rest : List Char) : Ends (closing right parts ++ rest) := by
  intro c hc
  cases parts with
  | nil =>
    obtain rfl : right = c := by simpa [closing] using hc
    exact .inr bracket
  | cons part more =>
    obtain rfl : ',' = c := by simpa [closing] using hc
    exact .inl rfl

theorem skipBlank_closing (right : Char) (bracket : isBlank right = false)
    (parts : List (List Char)) (rest : List Char) :
    skipBlank (closing right parts ++ rest) = closing right parts ++ rest := by
  cases parts with
  | nil => simp [skipBlank, closing, bracket]
  | cons part more =>
    have comma : isBlank ',' = false := rfl
    simp [skipBlank, closing, comma]

theorem readItems_item {item : Json} (reads : Reads item) (before : List Json) {fuel : Nat}
    {rest : List Char} (enough : item.chars.length ≤ fuel) (ends : Ends rest) :
    readItems (fuel + 1) before (item.chars ++ rest) =
      match skipBlank rest with
      | ',' :: more => readItems fuel (item :: before) (skipBlank more)
      | ']' :: more => some (.arr (item :: before).reverse, more)
      | _ => none := by
  rw [readItems, reads fuel rest enough ends]
  rfl

/-- Items are read one by one, each with the fuel that is left. -/
theorem readItems_closing {item : Json} {items : List Json}
    (reads : ∀ own ∈ item :: items, Opens own.chars ∧ Reads own) (before : List Json) (fuel : Nat)
    (rest : List Char)
    (enough : (item.chars ++ closing ']' (items.map chars)).length ≤ fuel) :
    readItems fuel before (item.chars ++ (closing ']' (items.map chars) ++ rest)) =
      some (.arr (before.reverse ++ item :: items), rest) := by
  have ends := ends_closing ']' (.inl rfl) (items.map chars) rest
  have unblank := skipBlank_closing ']' rfl (items.map chars) rest
  induction items generalizing item before fuel with
  | nil =>
    simp only [closing, List.length_append, List.length_singleton, List.map_nil] at enough
    obtain ⟨left, rfl⟩ := Nat.exists_eq_add_one.2 (show 0 < fuel by omega)
    rw [readItems_item (reads item (by simp)).2 before (by omega) ends, unblank]
    simp [closing]
  | cons next more ih =>
    simp only [closing, List.length_append, List.length_cons, List.map_cons] at enough
    obtain ⟨left, rfl⟩ := Nat.exists_eq_add_one.2 (show 0 < fuel by omega)
    have opens := ((reads next (by simp)).1.append (closing ']' (more.map chars) ++ rest)).skipBlank
    have later := ih (fun own among => reads own (List.mem_cons_of_mem _ among)) (item :: before)
      left (by simp only [List.length_append]; omega)
      (ends_closing ']' (.inl rfl) _ rest) (skipBlank_closing _ rfl _ rest)
    rw [readItems_item (reads item (by simp)).2 before (by omega) ends, unblank]
    simp only [List.map_cons, closing, List.cons_append, List.append_assoc, opens, later]
    simp

theorem readMembers_named {member : String × Json} (opens : Opens member.2.chars)
    (reads : Reads member.2) (before : List (String × Json)) {fuel : Nat} {rest : List Char}
    (enough : (named member).length ≤ fuel) (ends : Ends rest) :
    readMembers (fuel + 1) (some before) (named member ++ rest) =
      match skipBlank rest with
      | ',' :: more => readMembers fuel (some (member :: before)) (skipBlank more)
      | '}' :: more => some (.obj (member :: before).reverse, more)
      | _ => none := by
  obtain ⟨key, value⟩ := member
  simp only [named, quoted, List.length_append, List.length_cons] at enough
  have text := readString_escaped key fuel (':' :: (value.chars ++ rest)) (by omega)
  have colon : skipBlank (':' :: (value.chars ++ rest)) = ':' :: (value.chars ++ rest) := rfl
  have inner : value.chars.length ≤ fuel := by omega
  have held := reads fuel rest inner ends
  have start := (opens.append rest).skipBlank
  simp only [named, quoted, List.cons_append, List.append_assoc, List.nil_append, readMembers, text,
    Option.bind_eq_bind, Option.bind_some, colon, expect?, beq_self_eq_true, if_true, start, held]
  rfl

theorem opens_named (member : String × Json) : Opens (named member) := ⟨'"', _, rfl, by decide⟩

theorem readMembers_closing {member : String × Json} {members : List (String × Json)}
    (reads : ∀ own ∈ member :: members, Opens own.2.chars ∧ Reads own.2)
    (before : List (String × Json)) (fuel : Nat) (rest : List Char)
    (enough : (named member ++ closing '\x7d' (members.map named)).length ≤ fuel) :
    readMembers fuel (some before) (named member ++ (closing '\x7d' (members.map named) ++ rest)) =
      some (.obj (before.reverse ++ member :: members), rest) := by
  have ends := ends_closing '\x7d' (.inr rfl) (members.map named) rest
  have unblank := skipBlank_closing '\x7d' rfl (members.map named) rest
  have own := reads member (by simp)
  induction members generalizing member before fuel with
  | nil =>
    simp only [closing, List.length_append, List.length_singleton, List.map_nil] at enough
    obtain ⟨left, rfl⟩ := Nat.exists_eq_add_one.2 (show 0 < fuel by omega)
    rw [readMembers_named own.1 own.2 before (by omega) ends, unblank]
    simp [closing]
  | cons next more ih =>
    simp only [closing, List.length_append, List.length_cons, List.map_cons] at enough
    obtain ⟨left, rfl⟩ := Nat.exists_eq_add_one.2 (show 0 < fuel by omega)
    have opens := ((opens_named next).append (closing '\x7d' (more.map named) ++ rest)).skipBlank
    have later := ih (fun own among => reads own (List.mem_cons_of_mem _ among)) (member :: before)
      left (by simp only [List.length_append]; omega)
      (ends_closing '\x7d' (.inr rfl) _ rest) (skipBlank_closing _ rfl _ rest)
      (reads next (by simp))
    rw [readMembers_named own.1 own.2 before (by omega) ends, unblank]
    simp only [List.map_cons, closing, List.cons_append, List.append_assoc, opens, later]
    simp

theorem readValue_array {inner : List Char} (opens : Opens inner) (fuel : Nat) :
    readValue (fuel + 1) ('[' :: inner) = readItems fuel [] inner := by
  have skipped := opens.skipBlank
  obtain ⟨c, more, rfl, -, noEnd, -⟩ := opens
  rw [readValue, skipped]
  split
  · next same => exact absurd (List.cons.inj same).1 noEnd
  · rfl

theorem readValue_object {inner : List Char} (opens : Opens inner) (fuel : Nat) :
    readValue (fuel + 1) ('\x7b' :: inner) = readMembers fuel (some []) inner := by
  have skipped := opens.skipBlank
  obtain ⟨c, more, rfl, -, -, noEnd⟩ := opens
  rw [readValue, skipped]
  split
  · next same => exact absurd (List.cons.inj same).1 noEnd
  · rfl

theorem Number.reads {number : Number} (h : number.WellFormed) : Reads (.num number) := by
  intro fuel rest enough ends
  obtain ⟨c, more, same, digit⟩ := Number.head_chars h
  have read := readNumber_chars h ends
  rw [Json.chars, same, List.length_cons] at enough
  obtain ⟨left, rfl⟩ := Nat.exists_eq_add_one.2 (show 0 < fuel by omega)
  rw [Json.chars]
  rw [same, List.cons_append] at read ⊢
  unfold readValue
  -- None of the other beginnings is a sign or a digit.
  split
  iterate 6
    next begins =>
      obtain ⟨rfl, -⟩ := List.cons.inj begins
      exact absurd digit (by decide)
  rw [read]
  rfl

theorem reads_str (value : String) : Reads (.str value) := by
  intro fuel rest enough ends
  simp only [chars, quoted, List.length_append, List.length_cons] at enough
  obtain ⟨left, rfl⟩ := Nat.exists_eq_add_one.2 (show 0 < fuel by omega)
  have text := readString_escaped value left rest (by omega)
  simp [chars, quoted, readValue, text]

theorem reads_arr {items : List Json} (each : ∀ item ∈ items, Opens item.chars ∧ Reads item) :
    Reads (.arr items) := by
  intro fuel rest enough ends
  rw [chars, itemChars_eq_map] at enough ⊢
  cases items with
  | nil =>
    simp only [List.map_nil, enclosed, List.length_cons] at enough
    obtain ⟨left, rfl⟩ := Nat.exists_eq_add_one.2 (show 0 < fuel by omega)
    rfl
  | cons item more =>
    simp only [List.map_cons, enclosed, List.length_cons] at enough
    obtain ⟨left, rfl⟩ := Nat.exists_eq_add_one.2 (show 0 < fuel by omega)
    have read := readItems_closing each [] left rest (by omega)
    simp only [List.map_cons, enclosed, List.cons_append, List.append_assoc]
    rw [readValue_array ((each item (by simp)).1.append _), read]
    rfl

theorem reads_obj {members : List (String × Json)}
    (each : ∀ member ∈ members, Opens member.2.chars ∧ Reads member.2) :
    Reads (.obj members) := by
  intro fuel rest enough ends
  rw [chars, memberChars_eq_map] at enough ⊢
  cases members with
  | nil =>
    simp only [List.map_nil, enclosed, List.length_cons] at enough
    obtain ⟨left, rfl⟩ := Nat.exists_eq_add_one.2 (show 0 < fuel by omega)
    rfl
  | cons member more =>
    simp only [List.map_cons, enclosed, List.length_cons] at enough
    obtain ⟨left, rfl⟩ := Nat.exists_eq_add_one.2 (show 0 < fuel by omega)
    have read := readMembers_closing each [] left rest (by omega)
    simp only [List.map_cons, enclosed, List.cons_append, List.append_assoc]
    rw [readValue_object ((opens_named member).append _), read]
    rfl

theorem Written.reads {value : Json} (h : Written value) : Reads value := by
  induction h with
  | null =>
    intro fuel rest enough ends
    have enough := Nat.lt_of_lt_of_le Written.null.opens.length_pos enough
    obtain ⟨left, rfl⟩ := Nat.exists_eq_add_one.2 enough
    rfl
  | bool value =>
    intro fuel rest enough ends
    have enough := Nat.lt_of_lt_of_le (Written.bool value).opens.length_pos enough
    obtain ⟨left, rfl⟩ := Nat.exists_eq_add_one.2 enough
    cases value <;> rfl
  | num h => exact Number.reads h
  | str value => exact reads_str value
  | arr h ih => exact reads_arr fun item among => ⟨(h item among).opens, ih item among⟩
  | obj h ih => exact reads_obj fun member among => ⟨(h member among).opens, ih member among⟩

/-- The compact text of a value is read back as this value. -/
theorem parse_compact {value : Json} (h : Written value) : parse value.compact = .ok value := by
  have start := h.opens.skipBlank
  have read := h.reads (value.chars.length + 1) [] (by omega) (by intro c hc; cases hc)
  rw [List.append_nil] at read
  have first : readFirst value.compact = some (value, []) := by
    rw [readFirst, toList_compact, start]
    exact read
  have whole : parse? value.compact = some value := by
    rw [parse?, first]
    rfl
  simp only [parse, whole]

end SchemaNet.Json
