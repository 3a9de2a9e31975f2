import Stratalog.Proofs.Json.Token

/-!
# Reading written documents

The compact text of a document is read back as the document, provided that its numbers are whole
numbers of sixty-four bits and that every part of it could be written at all. Nothing is asked of how
deep it nests: only taking documents apart is bounded.
-/

namespace Stratalog

/-- Whether a number is written the way it is read: it is a word of sixty-four bits, and one with a
sign is below zero. -/
def Number.IsWord : Number → Prop
  | .natural _ => True
  | .negative n => n < 0
  | .real _ => False

namespace Json

mutual

/-- Whether a value is written as a text that stands for it: every part can be written, and the numbers
are words of sixty-four bits. -/
def Printable : Json → Prop
  | .number n => n.IsWord
  | .array items => AllPrintable items
  | .object fields => FieldsPrintable fields
  | .unreadable => False
  | _ => True

/-- Whether every item is printable. -/
def AllPrintable : List Json → Prop
  | [] => True
  | item :: items => Printable item ∧ AllPrintable items

/-- Whether every field has a printable value. -/
def FieldsPrintable : List (String × Json) → Prop
  | [] => True
  | (_, value) :: fields => Printable value ∧ FieldsPrintable fields

end

/-- A digit is none of the other characters. -/
theorem ne_of_isDigit {c other : Char} (h : c.isDigit = true) (hother : other.isDigit = false) :
    c ≠ other := by
  rintro rfl
  rw [h] at hother
  cases hother

/-- Whether a text begins with something other than a blank or a closing bracket, as values do. -/
def BeginsValue (cs : List Char) : Prop :=
  ∃ c rest, cs = c :: rest ∧ isBlank c = false ∧ c ≠ ']'

/-- A text that begins with a value has no blanks to skip. -/
theorem BeginsValue.skipBlanks {cs : List Char} (h : BeginsValue cs) : skipBlanks cs = cs := by
  obtain ⟨c, rest, rfl, hblank, -⟩ := h
  rw [Json.skipBlanks, List.dropWhile_cons_of_neg (by simp [hblank])]

/-- A digit begins a value. -/
theorem beginsValue_digit {c : Char} {rest : List Char} (h : c.isDigit = true) :
    BeginsValue (c :: rest) := by
  have hblank : isBlank c = false := by
    simp [isBlank, ne_of_isDigit h]
  exact ⟨c, rest, rfl, hblank, ne_of_isDigit h (by decide)⟩

/-- A digit is read as the first one of a number. -/
theorem readValue_digit {c : Char} {rest : List Char} {fuel : Nat} (h : c.isDigit = true) :
    readValue (fuel + 1) (c :: rest) = readNumber false (c :: rest) := by
  rw [readValue, (beginsValue_digit h).skipBlanks]
  split
  case h_7 heq =>
    obtain ⟨rfl, rfl⟩ := List.cons_eq_cons.1 heq
    exact if_neg (ne_of_isDigit h rfl)
  case h_8 heq => cases heq
  -- The other patterns begin with a character that is no digit.
  all_goals
    next heq => exact absurd (List.cons_eq_cons.1 heq).1 (ne_of_isDigit h rfl)

/-- The digits of a number are one digit and perhaps more. -/
theorem toDigits_eq_cons (n : Nat) :
    ∃ c digits, Nat.toDigits 10 n = c :: digits ∧ c.isDigit = true := by
  cases hdigits : Nat.toDigits 10 n with
  | nil => exact absurd hdigits Nat.toDigits_ne_nil
  | cons c digits =>
    have hmem : c ∈ Nat.toDigits 10 n := hdigits ▸ List.mem_cons_self
    exact ⟨c, digits, rfl, Nat.isDigit_of_mem_toDigits (by decide) (by decide) hmem⟩

/-- The text of a negative number is a sign and the digits of its magnitude. -/
theorem numberText_negative {n : Int64} (h : n < 0) :
    (numberText (.negative n)).toList = '-' :: Nat.toDigits 10 (-n.toInt).toNat := by
  have hneg : n.toInt < 0 := Int64.lt_iff_toInt_lt.1 h
  have hrepr : numberText (.negative n) = n.toInt.repr := rfl
  rw [hrepr, Int.repr_eq_if, if_neg (by omega)]
  simp

/-- The text of a natural number is its digits. -/
theorem numberText_natural (n : UInt64) :
    (numberText (.natural n)).toList = Nat.toDigits 10 n.toNat := by
  have hrepr : numberText (.natural n) = n.toNat.repr := rfl
  rw [hrepr, Nat.toList_repr]

/-- The text of a word begins a value. -/
theorem beginsValue_numberText {n : Number} (h : n.IsWord) (rest : List Char) :
    BeginsValue ((numberText n).toList ++ rest) := by
  cases n with
  | natural n =>
    obtain ⟨c, digits, hdigits, hc⟩ := toDigits_eq_cons n.toNat
    rw [numberText_natural, hdigits]
    exact beginsValue_digit hc
  | negative n =>
    rw [numberText_negative h]
    exact ⟨'-', _, rfl, rfl, by decide⟩
  | real x => cases h

/-- A written value begins a value. -/
theorem beginsValue_write {json : Json} (h : json.Printable) (rest : List Char) :
    BeginsValue (write rest json) := by
  cases json with
  | number n =>
    rw [Printable] at h
    rw [write, writeScalar]
    · exact beginsValue_numberText h rest
    all_goals simp
  | bool flag => cases flag <;> exact ⟨_, _, rfl, rfl, by decide⟩
  | unreadable => cases h
  | _ => exact ⟨_, _, rfl, rfl, by decide⟩

/-- A written word is read back. -/
theorem readValue_numberText {n : Number} (h : n.IsWord) {rest : List Char}
    (hrest : EndsNumber rest) (fuel : Nat) :
    readValue (fuel + 1) ((numberText n).toList ++ rest) = some (.number n, rest) := by
  cases n with
  | natural n =>
    obtain ⟨c, digits, hdigits, hc⟩ := toDigits_eq_cons n.toNat
    have hread := readNumber_toDigits false n.toNat_lt hrest
    rw [numberText_natural]
    rw [hdigits] at hread ⊢
    rw [List.cons_append, readValue_digit hc, ← List.cons_append, hread]
    simp [whole?, ofNumber?]
  | negative n =>
    have hneg : n.toInt < 0 := Int64.lt_iff_toInt_lt.1 h
    have hleast : -2 ^ 63 ≤ n.toInt := n.le_toInt
    have hfits : (-n.toInt).toNat < Nat.pow 2 64 := by
      change _ < 2 ^ 64
      omega
    have hread := readNumber_toDigits true hfits hrest
    have hwhole : whole? true (-n.toInt).toNat = some (.negative n) := by
      rw [whole?, if_neg (by simp), if_neg (by omega),
        if_pos (by change _ ≤ 2 ^ 63; omega)]
      have hback : -((-n.toInt).toNat : Int) = n.toInt := by omega
      rw [hback, Int64.ofInt_toInt]
    rw [numberText_negative h, readValue, List.cons_append]
    change readNumber true _ = _
    rw [hread, hwhole]
    rfl
  | real x => cases h

/-- A comma ends a number. -/
theorem endsNumber_comma (rest : List Char) : EndsNumber (',' :: rest) := by
  intro c hc
  obtain rfl : ',' = c := Option.some.inj hc
  decide

/-- A closing bracket ends a number. -/
theorem endsNumber_bracket (rest : List Char) : EndsNumber (']' :: rest) := by
  intro c hc
  obtain rfl : ']' = c := Option.some.inj hc
  decide

/-- A closing brace ends a number. -/
theorem endsNumber_brace (rest : List Char) : EndsNumber ('\x7d' :: rest) := by
  intro c hc
  obtain rfl : '\x7d' = c := Option.some.inj hc
  decide

/-- To prove a property of all values, prove it of each from its parts. -/
@[elab_as_elim]
theorem induction {motive : Json → Prop} (null : motive .null) (bool : ∀ flag, motive (.bool flag))
    (number : ∀ n, motive (.number n)) (string : ∀ text, motive (.string text))
    (array : ∀ items, (∀ item ∈ items, motive item) → motive (.array items))
    (object : ∀ fields, (∀ field ∈ fields, motive field.2) → motive (.object fields))
    (unreadable : motive .unreadable) (json : Json) : motive json :=
  @Json.rec motive (fun items => ∀ item ∈ items, motive item)
    (fun fields => ∀ field ∈ fields, motive field.2) (fun field => motive field.2)
    null bool number string array object unreadable
    (fun _ hitem => absurd hitem List.not_mem_nil)
    (fun _ _ ihhead ihrest => List.forall_mem_cons.2 ⟨ihhead, ihrest⟩)
    (fun _ hfield => absurd hfield List.not_mem_nil)
    (fun _ _ ihhead ihrest => List.forall_mem_cons.2 ⟨ihhead, ihrest⟩)
    (fun _ _ ihvalue => ihvalue) json

/-- All items are printable exactly when each is. -/
theorem allPrintable_iff {items : List Json} :
    AllPrintable items ↔ ∀ item ∈ items, item.Printable := by
  induction items with
  | nil => simp [AllPrintable]
  | cons item items ih => rw [AllPrintable, ih, List.forall_mem_cons]

/-- All fields are printable exactly when the value of each is. -/
theorem fieldsPrintable_iff {fields : List (String × Json)} :
    FieldsPrintable fields ↔ ∀ field ∈ fields, field.2.Printable := by
  induction fields with
  | nil => simp [FieldsPrintable]
  | cons field fields ih => rw [FieldsPrintable, ih, List.forall_mem_cons]

/-- Written characters take no room away. -/
theorem length_le_writeChars (rest cs : List Char) : rest.length ≤ (writeChars rest cs).length := by
  induction cs with
  | nil => exact Nat.le_refl _
  | cons c cs ih =>
    rw [writeChars, List.length_append]
    omega

/-- A written text takes some room. -/
theorem length_lt_writeString (text : String) (rest : List Char) :
    rest.length + 1 < (writeString text rest).length := by
  have hchars := length_le_writeChars ('"' :: rest) text.toList
  rw [writeString, List.length_cons]
  rw [List.length_cons] at hchars
  omega

/-- Whether a value takes some room wherever it is written. -/
def TakesRoom (json : Json) : Prop :=
  ∀ rest, rest.length < (write rest json).length

/-- Items that take room take no room away. -/
theorem length_le_writeMoreItems {items : List Json} (h : ∀ item ∈ items, item.TakesRoom)
    (rest : List Char) : rest.length ≤ (writeMoreItems rest items).length := by
  induction items with
  | nil => exact Nat.le_refl _
  | cons item items ih =>
    obtain ⟨hitem, hitems⟩ := List.forall_mem_cons.1 h
    have hroom := hitem (writeMoreItems rest items)
    have hmore := ih hitems
    rw [writeMoreItems, List.length_cons]
    omega

/-- Items that take room take no room away. -/
theorem length_le_writeItems {items : List Json} (h : ∀ item ∈ items, item.TakesRoom)
    (rest : List Char) : rest.length ≤ (writeItems rest items).length := by
  cases items with
  | nil => exact Nat.le_refl _
  | cons item items =>
    obtain ⟨hitem, hitems⟩ := List.forall_mem_cons.1 h
    exact Nat.le_trans (length_le_writeMoreItems hitems rest) (Nat.le_of_lt (hitem _))

/-- Fields whose values take room take no room away. -/
theorem length_le_writeMoreFields {fields : List (String × Json)}
    (h : ∀ field ∈ fields, field.2.TakesRoom) (rest : List Char) :
    rest.length ≤ (writeMoreFields rest fields).length := by
  induction fields with
  | nil => exact Nat.le_refl _
  | cons field fields ih =>
    obtain ⟨hfield, hfields⟩ := List.forall_mem_cons.1 h
    have hroom := hfield (writeMoreFields rest fields)
    have hname := length_lt_writeString field.1 (':' :: write (writeMoreFields rest fields) field.2)
    have hmore := ih hfields
    rw [writeMoreFields, List.length_cons]
    rw [List.length_cons] at hname
    omega

/-- Fields whose values take room take no room away. -/
theorem length_le_writeFields {fields : List (String × Json)}
    (h : ∀ field ∈ fields, field.2.TakesRoom) (rest : List Char) :
    rest.length ≤ (writeFields rest fields).length := by
  cases fields with
  | nil => exact Nat.le_refl _
  | cons field fields =>
    obtain ⟨hfield, hfields⟩ := List.forall_mem_cons.1 h
    have hroom := hfield (writeMoreFields rest fields)
    have hname := length_lt_writeString field.1 (':' :: write (writeMoreFields rest fields) field.2)
    have hmore := length_le_writeMoreFields hfields rest
    rw [writeFields]
    rw [List.length_cons] at hname
    omega

/-- A printable value takes some room. -/
theorem Printable.takesRoom {json : Json} (h : json.Printable) : json.TakesRoom := by
  induction json using induction with
  | null => exact fun rest => by simp [write, writeScalar]; omega
  | bool flag => exact fun rest => by cases flag <;> simp [write, writeScalar] <;> omega
  | number n =>
    intro rest
    obtain ⟨c, cs, htext, -⟩ := beginsValue_numberText h []
    have hwrite : write rest (.number n) = (numberText n).toList ++ rest := rfl
    rw [List.append_nil] at htext
    rw [hwrite, htext, List.length_append, List.length_cons]
    omega
  | string text => exact fun rest => Nat.lt_of_succ_lt (length_lt_writeString text rest)
  | unreadable => cases h
  | array items ih =>
    intro rest
    have hitems := length_le_writeItems
      (fun item hitem => ih item hitem (allPrintable_iff.1 h item hitem)) (']' :: rest)
    rw [List.length_cons] at hitems
    rw [write, List.length_cons]
    omega
  | object fields ih =>
    intro rest
    have hfields := length_le_writeFields
      (fun field hfield => ih field hfield (fieldsPrintable_iff.1 h field hfield)) ('\x7d' :: rest)
    rw [List.length_cons] at hfields
    rw [write, List.length_cons]
    omega

/-- Whether a value is read back wherever it is written, if the text after it ends numbers and there
is a step to take for each of its characters. -/
def ReadsBack (json : Json) : Prop :=
  ∀ (fuel : Nat) (rest : List Char), EndsNumber rest →
    (write rest json).length ≤ rest.length + fuel →
      readValue fuel (write rest json) = some (json, rest)

/-- An array with items is read as its items. -/
theorem readValue_bracket {cs : List Char} (h : BeginsValue cs) (fuel : Nat) :
    readValue (fuel + 1) ('[' :: cs) =
      (readItems fuel [] cs).map fun (items, rest) => (.array items, rest) := by
  have hopen : skipBlanks ('[' :: cs) = '[' :: cs := rfl
  rw [readValue, hopen]
  simp only [h.skipBlanks]
  split
  next =>
    obtain ⟨c, _, hcs, -, hne⟩ := h
    exact absurd (List.cons_eq_cons.1 hcs).1.symm hne
  next => rfl

/-- Written items are read behind those read before. -/
theorem readItems_writeItems {items : List Json} (read : List Json) (fuel : Nat) (rest : List Char)
    (hne : items ≠ []) (hroom : ∀ item ∈ items, item.TakesRoom)
    (hread : ∀ item ∈ items, item.ReadsBack)
    (hfuel : (writeItems (']' :: rest) items).length ≤ rest.length + fuel) :
    readItems fuel read (writeItems (']' :: rest) items) =
      some (read.reverse ++ items, rest) := by
  induction items generalizing read fuel with
  | nil => exact absurd rfl hne
  | cons item items ih =>
    obtain ⟨hitem, hitems⟩ := List.forall_mem_cons.1 hread
    obtain ⟨hlength, hlengths⟩ := List.forall_mem_cons.1 hroom
    cases items with
    | nil =>
      have htext : writeItems (']' :: rest) [item] = write (']' :: rest) item := rfl
      have hspace := hlength (']' :: rest)
      rw [htext] at hfuel ⊢
      rw [List.length_cons] at hspace
      obtain _ | fuel := fuel
      · omega
      have hvalue := hitem fuel _ (endsNumber_bracket rest) (by rw [List.length_cons]; omega)
      rw [readItems, hvalue]
      simp [skipBlanks, isBlank]
    | cons next items =>
      have htext : writeItems (']' :: rest) (item :: next :: items) =
          write (',' :: writeItems (']' :: rest) (next :: items)) item := rfl
      have hspace := hlength (',' :: writeItems (']' :: rest) (next :: items))
      have hmore := length_le_writeItems hlengths (']' :: rest)
      rw [htext] at hfuel ⊢
      rw [List.length_cons] at hspace hmore
      obtain _ | fuel := fuel
      · omega
      have hvalue := hitem fuel (',' :: writeItems (']' :: rest) (next :: items))
        (endsNumber_comma _) (by rw [List.length_cons]; omega)
      rw [readItems, hvalue]
      change readItems fuel (item :: read) _ = _
      rw [ih _ _ (by simp) hlengths hitems (by omega), List.reverse_cons, List.append_assoc]
      rfl

/-- A written field is read, and what follows it decides how reading goes on. -/
theorem readFields_field {name : String} {value : Json} {read : List (String × Json)} {fuel : Nat}
    {rest : List Char} (hread : value.ReadsBack) (hrest : EndsNumber rest)
    (hfuel : (write rest value).length ≤ rest.length + fuel) :
    readFields (fuel + 1) (some read) (writeString name (':' :: write rest value)) =
      match skipBlanks rest with
      | ',' :: rest => readFields fuel (some ((name, value) :: read)) rest
      | c :: rest =>
        if c = '\x7d' then some (some ((name, value) :: read).reverse, rest) else none
      | [] => none := by
  have hopen (cs : List Char) : skipBlanks ('"' :: cs) = '"' :: cs := rfl
  have hcolon (cs : List Char) : skipBlanks (':' :: cs) = ':' :: cs := rfl
  rw [readFields, writeString, hopen]
  simp only [readChars_writeString, hcolon, hread fuel rest hrest hfuel]
  rfl

/-- Written fields are read behind those read before. -/
theorem readFields_writeFields {fields : List (String × Json)} (read : List (String × Json))
    (fuel : Nat) (rest : List Char) (hne : fields ≠ []) (hroom : ∀ field ∈ fields, field.2.TakesRoom)
    (hread : ∀ field ∈ fields, field.2.ReadsBack)
    (hfuel : (writeFields ('\x7d' :: rest) fields).length ≤ rest.length + fuel) :
    readFields fuel (some read) (writeFields ('\x7d' :: rest) fields) =
      some (some (read.reverse ++ fields), rest) := by
  induction fields generalizing read fuel with
  | nil => exact absurd rfl hne
  | cons field fields ih =>
    obtain ⟨hvalue, hvalues⟩ := List.forall_mem_cons.1 hread
    obtain ⟨hlength, hlengths⟩ := List.forall_mem_cons.1 hroom
    cases fields with
    | nil =>
      have htext : writeFields ('\x7d' :: rest) [field] =
          writeString field.1 (':' :: write ('\x7d' :: rest) field.2) := rfl
      have hspace := hlength ('\x7d' :: rest)
      have hname := length_lt_writeString field.1 (':' :: write ('\x7d' :: rest) field.2)
      rw [htext] at hfuel ⊢
      rw [List.length_cons] at hspace hname
      obtain _ | fuel := fuel
      · omega
      rw [readFields_field hvalue (endsNumber_brace rest) (by rw [List.length_cons]; omega)]
      simp [skipBlanks, isBlank]
    | cons next fields =>
      have htext : writeFields ('\x7d' :: rest) (field :: next :: fields) = writeString field.1
          (':' :: write (',' :: writeFields ('\x7d' :: rest) (next :: fields)) field.2) := rfl
      have hspace := hlength (',' :: writeFields ('\x7d' :: rest) (next :: fields))
      have hname := length_lt_writeString field.1
        (':' :: write (',' :: writeFields ('\x7d' :: rest) (next :: fields)) field.2)
      have hmore := length_le_writeFields hlengths ('\x7d' :: rest)
      rw [htext] at hfuel ⊢
      rw [List.length_cons] at hspace hname hmore
      obtain _ | fuel := fuel
      · omega
      rw [readFields_field hvalue (endsNumber_comma _) (by rw [List.length_cons]; omega)]
      change readFields fuel (some (field :: read)) _ = _
      rw [ih _ _ (by simp) hlengths hvalues (by omega), List.reverse_cons, List.append_assoc]
      rfl

/-- An object with fields is read as its fields. -/
theorem readValue_brace (rest : List Char) (field : String × Json) (fields : List (String × Json))
    (fuel : Nat) :
    readValue (fuel + 1) ('\x7b' :: writeFields rest (field :: fields)) =
      (readFields fuel (some []) (writeFields rest (field :: fields))).map fun (fields, rest) =>
        (ofFields? fields, rest) := by
  rw [readValue]
  rfl

/-- A value that takes room needs a step, so it is enough to read it back with one at hand. -/
theorem TakesRoom.readsBack {json : Json} (hroom : json.TakesRoom)
    (h : ∀ (fuel : Nat) (rest : List Char), EndsNumber rest →
      (write rest json).length ≤ rest.length + (fuel + 1) →
        readValue (fuel + 1) (write rest json) = some (json, rest)) : json.ReadsBack := by
  intro fuel rest hrest hfuel
  have hspace := hroom rest
  obtain _ | fuel := fuel
  · omega
  · exact h fuel rest hrest hfuel

/-- A printable value is read back. -/
theorem Printable.readsBack {json : Json} (h : json.Printable) : json.ReadsBack := by
  induction json using induction with
  | unreadable => cases h
  | null =>
    refine h.takesRoom.readsBack fun fuel rest _ _ => ?_
    rw [readValue]
    rfl
  | bool flag =>
    refine h.takesRoom.readsBack fun fuel rest _ _ => ?_
    rw [readValue]
    cases flag <;> rfl
  | number n =>
    exact h.takesRoom.readsBack fun fuel rest hrest _ => readValue_numberText h hrest fuel
  | string text =>
    refine h.takesRoom.readsBack fun fuel rest _ _ => ?_
    rw [readValue]
    change (readChars {} (writeChars ('"' :: rest) text.toList)).map _ = _
    rw [readChars_writeString]
    rfl
  | array items ih =>
    refine h.takesRoom.readsBack fun fuel rest _ hfuel => ?_
    have hitems := allPrintable_iff.1 h
    cases items with
    | nil =>
      rw [readValue]
      rfl
    | cons item items =>
      have hbegins : BeginsValue (writeItems (']' :: rest) (item :: items)) :=
        beginsValue_write (hitems item List.mem_cons_self) (writeMoreItems (']' :: rest) items)
      have hread := readItems_writeItems [] fuel rest (List.cons_ne_nil item items)
        (fun item hitem => (hitems item hitem).takesRoom)
        (fun item hitem => ih item hitem (hitems item hitem))
        (by rw [write, List.length_cons] at hfuel; omega)
      rw [write, readValue_bracket hbegins, hread]
      rfl
  | object fields ih =>
    refine h.takesRoom.readsBack fun fuel rest _ hfuel => ?_
    have hfields := fieldsPrintable_iff.1 h
    cases fields with
    | nil =>
      rw [readValue]
      rfl
    | cons field fields =>
      have hread := readFields_writeFields [] fuel rest (List.cons_ne_nil field fields)
        (fun field hfield => (hfields field hfield).takesRoom)
        (fun field hfield => ih field hfield (hfields field hfield))
        (by rw [write, List.length_cons] at hfuel; omega)
      rw [write, readValue_brace, hread]
      rfl

/-- The compact text of a printable value is read back. -/
theorem parse?_compact {json : Json} (h : json.Printable) : parse? json.compact = some json := by
  have hread := h.readsBack (2 * (write [] json).length + 2) [] (by simp [EndsNumber])
    (by rw [List.length_nil]; omega)
  simp only [parse?, compact, String.toList_ofList, hread]
  rfl

end Json

end Stratalog
