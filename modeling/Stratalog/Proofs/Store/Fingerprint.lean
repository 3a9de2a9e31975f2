import Std.Data.String.ToInt
import Stratalog.Proofs.Relation.Sorted
import Stratalog.Proofs.Store.Conformity
import Stratalog.Store.Fingerprint

/-!
# What the digest of a store tells apart

The bytes of a value begin with its kind and end with a zero byte, so rows can be read back from
their bytes as long as no text contains a zero character and what follows the rows cannot be taken
for a value. Stores that are laid out alike are thus hashed from the same bytes exactly when their
relations hold the same rows.

Names, column names, column types, categories and labels follow each other with no mark between
them. Nothing holds of stores that are laid out differently: two of them may be hashed from the same
bytes.
-/

namespace Stratalog

/-- What is made of the entries of two maps is the same at every key exactly when it is the same along
their listings. -/
theorem map_toList_eq_iff {α β γ : Type} [Ord α] [Std.TransOrd α] [Std.LawfulEqOrd α]
    {left right : Std.TreeMap α β} (f : β → γ) :
    (∀ key : α, left[key]?.map f = right[key]?.map f) ↔
      left.toList.map (fun entry => (entry.1, f entry.2)) =
        right.toList.map fun entry => (entry.1, f entry.2) := by
  have hlist (entries : Std.TreeMap α β) :
      (entries.map fun _ value => f value).toList =
        entries.toList.map fun entry => (entry.1, f entry.2) :=
    Std.TreeMap.toList_map
  rw [← hlist, ← hlist, ← Std.TreeMap.equiv_iff_toList_eq]
  constructor
  · intro h
    refine .of_forall_constGet?_eq fun key => ?_
    rw [Std.TreeMap.getElem?_map, Std.TreeMap.getElem?_map, h]
  · intro h key
    have hkey := h.getElem?_eq (k := key)
    rwa [Std.TreeMap.getElem?_map, Std.TreeMap.getElem?_map] at hkey

/-- Where a mark does not occur before it, what comes before and after it is determined. -/
theorem append_mark_inj {α : Type} {mark : α} {before other after rest : List α}
    (hbefore : mark ∉ before) (hother : mark ∉ other)
    (h : before ++ mark :: after = other ++ mark :: rest) : before = other ∧ after = rest := by
  induction before generalizing other with
  | nil =>
    cases other with
    | nil => simpa using h
    | cons next other =>
      obtain ⟨rfl, -⟩ := List.cons_eq_cons.1 h
      exact absurd List.mem_cons_self hother
  | cons first before ih =>
    cases other with
    | nil =>
      obtain ⟨rfl, -⟩ := List.cons_eq_cons.1 h
      exact absurd List.mem_cons_self hbefore
    | cons next other =>
      obtain ⟨rfl, htail⟩ := List.cons_eq_cons.1 h
      obtain ⟨rfl, rfl⟩ := ih (List.not_mem_of_not_mem_cons hbefore)
        (List.not_mem_of_not_mem_cons hother) htail
      exact ⟨rfl, rfl⟩

/-- Lists of one positive width are determined by what they list in a row. -/
theorem eq_of_flatten_eq {α : Type} {width : Nat} (hwidth : 0 < width) {lists others : List (List α)}
    (hlists : ∀ list ∈ lists, list.length = width) (hothers : ∀ list ∈ others, list.length = width)
    (h : lists.flatten = others.flatten) : lists = others := by
  have hmap : lists.map List.length = List.replicate lists.length width :=
    List.eq_replicate_iff.2 ⟨by simp, by simpa using hlists⟩
  have hmap' : others.map List.length = List.replicate others.length width :=
    List.eq_replicate_iff.2 ⟨by simp, by simpa using hothers⟩
  have hcount : lists.length * width = others.length * width := by
    have hlength := congrArg List.length h
    rwa [List.length_flatten, List.length_flatten, hmap, hmap', List.sum_replicate_nat,
      List.sum_replicate_nat] at hlength
  refine List.eq_iff_flatten_eq.2 ⟨h, ?_⟩
  rw [hmap, hmap', Nat.eq_of_mul_eq_mul_right hwidth hcount]

namespace Value

/-- Values of one kind are told apart by their written forms. -/
theorem eq_of_text_eq {value other : Value} (htype : value.type = other.type)
    (htext : value.text = other.text) : value = other := by
  cases value <;> cases other <;> cases htype
  next id id' =>
    have hnat : id.toNat = id'.toNat := Nat.repr_inj.1 (String.append_right_inj _ |>.1 htext)
    rw [UInt64.toNat_inj.1 hnat]
  next => exact congrArg Value.string htext
  next number number' =>
    have hint : number.toInt = number'.toInt := Int.repr_inj.1 htext
    rw [Int64.toInt_inj.1 hint]
  next flag flag' =>
    cases flag <;> cases flag' <;> first | rfl | exact absurd htext (by decide)

/-- Whether the value is no text with a zero character in it. -/
def ZeroFree (value : Value) : Prop :=
  ∀ text, value = .string text → '\x00' ∉ text.toList

/-- Digits do not include the zero character. -/
theorem zero_notMem_repr (n : Nat) : '\x00' ∉ n.repr.toList := by
  intro h
  rw [Nat.toList_repr] at h
  exact absurd (Nat.isDigit_of_mem_toDigits (by decide) (by decide) h) (by decide)

/-- The written form of a value has no zero character, unless the value is a text that has one. -/
theorem ZeroFree.text {value : Value} (h : value.ZeroFree) : '\x00' ∉ value.text.toList := by
  cases value with
  | entity id =>
    have hdigits := zero_notMem_repr id.toNat
    simpa [Value.text, entityText] using hdigits
  | string text => exact h text rfl
  | int number =>
    change '\x00' ∉ number.toInt.repr.toList
    rw [Int.repr_eq_if]
    split
    · exact zero_notMem_repr _
    · have hdigits := zero_notMem_repr (-number.toInt).toNat
      simpa using hdigits
  | bool flag => cases flag <;> decide

end Value

namespace FactStore

/-- Texts with the same bytes are the same. -/
theorem textBytes_injective : Function.Injective textBytes := by
  intro text other h
  exact String.toByteArray_inj.1 (ByteArray.ext (Array.toList_inj.1 h))

/-- The bytes of a text are those of its characters. -/
theorem textBytes_eq_flatMap (text : String) :
    textBytes text = text.toList.flatMap String.utf8EncodeChar := by
  rw [textBytes, String.toUTF8_eq_toByteArray, ← String.utf8Encode_toList, List.utf8Encode,
    List.data_toByteArray]

/-- Only the zero character is written with a zero byte. -/
theorem zero_mem_utf8EncodeChar {c : Char} (h : 0 ∈ String.utf8EncodeChar c) : c = '\x00' := by
  have hbyte (n : Nat) (hpos : 0 < n) (hlt : n < 256) : 0 ≠ UInt8.ofNat n := by
    intro heq
    have hnat := congrArg UInt8.toNat heq
    rw [UInt8.toNat_ofNat_of_lt' hlt, UInt8.toNat_zero] at hnat
    omega
  have hval : c.val.toNat = 0 := by
    by_contra hpos
    unfold String.utf8EncodeChar at h
    dsimp only at h
    -- One case per length of the encoding; every byte of it is positive.
    split_ifs at h
    all_goals simp only [List.mem_cons, List.not_mem_nil, or_false] at h
    · exact hbyte _ (by omega) (by omega) h
    · rcases h with h | h <;> exact hbyte _ (by omega) (by omega) h
    · rcases h with h | h | h <;> exact hbyte _ (by omega) (by omega) h
    · rcases h with h | h | h | h <;> exact hbyte _ (by omega) (by omega) h
  exact Char.ext (UInt32.toNat.inj hval)

/-- A text without the zero character is written without a zero byte. -/
theorem zero_notMem_textBytes {text : String} (h : '\x00' ∉ text.toList) : 0 ∉ textBytes text := by
  rw [textBytes_eq_flatMap, List.mem_flatMap]
  rintro ⟨c, hc, hzero⟩
  exact h (zero_mem_utf8EncodeChar hzero ▸ hc)

/-- Whether bytes are seen to begin no value: none follow, or the first is no kind of value. -/
def Headed (bytes : List UInt8) : Prop :=
  ∀ first ∈ bytes.head?, 3 < first

/-- A character beyond the kinds of value is written with a first byte beyond them. -/
theorem head_utf8EncodeChar {c : Char} (h : 3 < c.toNat) :
    ∃ first rest, String.utf8EncodeChar c = first :: rest ∧ 3 < first := by
  have hbyte (n : Nat) (hpos : 3 < n) (hlt : n < 256) : 3 < UInt8.ofNat n := by
    rw [UInt8.lt_iff_toNat_lt, UInt8.toNat_ofNat_of_lt' hlt]
    exact hpos
  have hval : 3 < c.val.toNat := h
  unfold String.utf8EncodeChar
  dsimp only
  split_ifs
  all_goals exact ⟨_, _, rfl, hbyte _ (by omega) (by omega)⟩

/-- The kind of a value is below every head. -/
theorem not_headed_valueBytes (value : Value) (rest : List UInt8) :
    ¬ Headed (valueBytes value ++ rest) := by
  intro h
  have hrank : 3 < value.type.rank.toUInt8 := h _ rfl
  revert hrank
  cases value.type <;> decide

/-- A value and what follows it are determined by their bytes. -/
theorem valueBytes_append_inj {value other : Value} {rest rest' : List UInt8}
    (hvalue : value.ZeroFree) (hother : other.ZeroFree)
    (h : valueBytes value ++ rest = valueBytes other ++ rest') : value = other ∧ rest = rest' := by
  simp only [valueBytes, List.cons_append, List.append_assoc, List.nil_append] at h
  obtain ⟨hrank, h⟩ := List.cons_eq_cons.1 h
  obtain ⟨htext, hrest⟩ := append_mark_inj (zero_notMem_textBytes hvalue.text)
    (zero_notMem_textBytes hother.text) h
  have htype : value.type = other.type := by
    revert hrank
    cases value.type <;> cases other.type <;> decide
  exact ⟨Value.eq_of_text_eq htype (textBytes_injective htext), hrest⟩

/-- Values in a row and what follows them are determined by their bytes. -/
theorem valuesBytes_append_inj {values others : List Value} {rest rest' : List UInt8}
    (hvalues : ∀ value ∈ values, value.ZeroFree) (hothers : ∀ value ∈ others, value.ZeroFree)
    (hrest : Headed rest) (hrest' : Headed rest')
    (h : values.flatMap valueBytes ++ rest = others.flatMap valueBytes ++ rest') :
    values = others ∧ rest = rest' := by
  induction values generalizing others with
  | nil =>
    cases others with
    | nil => exact ⟨rfl, h⟩
    | cons other others =>
      rw [List.flatMap_nil, List.nil_append, List.flatMap_cons, List.append_assoc] at h
      exact absurd (h ▸ hrest) (not_headed_valueBytes other _)
  | cons value values ih =>
    cases others with
    | nil =>
      rw [List.flatMap_nil, List.nil_append, List.flatMap_cons, List.append_assoc] at h
      exact absurd (h ▸ hrest') (not_headed_valueBytes value _)
    | cons other others =>
      rw [List.flatMap_cons, List.flatMap_cons, List.append_assoc, List.append_assoc] at h
      obtain ⟨hvalue, hvalues'⟩ := List.forall_mem_cons.1 hvalues
      obtain ⟨hother, hothers'⟩ := List.forall_mem_cons.1 hothers
      obtain ⟨rfl, htail⟩ := valueBytes_append_inj hvalue hother h
      obtain ⟨rfl, rfl⟩ := ih hvalues' hothers' htail
      exact ⟨rfl, rfl⟩

/-- Rows of one positive width and what follows them are determined by their bytes. -/
theorem rowsBytes_append_inj {rows others : List Row} {width : Nat} {rest rest' : List UInt8}
    (hwidth : 0 < width) (hrows : ∀ row ∈ rows, row.length = width ∧ ∀ value ∈ row, value.ZeroFree)
    (hothers : ∀ row ∈ others, row.length = width ∧ ∀ value ∈ row, value.ZeroFree)
    (hrest : Headed rest) (hrest' : Headed rest')
    (h : (rows.flatMap fun row => row.flatMap valueBytes) ++ rest =
      (others.flatMap fun row => row.flatMap valueBytes) ++ rest') :
    rows = others ∧ rest = rest' := by
  have hflat (rows : List Row) :
      (rows.flatMap fun row => row.flatMap valueBytes) = rows.flatten.flatMap valueBytes := by
    rw [← List.flatMap_id, List.flatMap_assoc]
    rfl
  rw [hflat, hflat] at h
  have hfree {rows : List Row}
      (hrows : ∀ row ∈ rows, row.length = width ∧ ∀ value ∈ row, value.ZeroFree) :
      ∀ value ∈ rows.flatten, value.ZeroFree := by
    intro value hvalue
    obtain ⟨row, hrow, hmem⟩ := List.mem_flatten.1 hvalue
    exact (hrows row hrow).2 value hmem
  obtain ⟨hvalues, rfl⟩ := valuesBytes_append_inj (hfree hrows) (hfree hothers) hrest hrest' h
  exact ⟨eq_of_flatten_eq hwidth (fun row hrow => (hrows row hrow).1)
    (fun row hrow => (hothers row hrow).1) hvalues, rfl⟩

/-- A relation that can be read back: its name is no continuation of rows before it, it has columns,
and its texts have no zero character. -/
structure Legible (name : String) (relation : Relation) : Prop where
  name : ∃ first rest, name.toList = first :: rest ∧ 3 < first.toNat
  columns : 0 < relation.schema.arity
  texts : ∀ row ∈ relation.rows, ∀ value ∈ row, value.ZeroFree

variable {store other : FactStore}

/-- Whether two stores have the same relations with the same columns, and the same entities as far
as their categories and labels go. -/
structure SameLayout (store other : FactStore) : Prop where
  schemas (name : String) :
    store.relations[name]?.map Relation.schema = other.relations[name]?.map Relation.schema
  entities (id : UInt64) : store.entities[id]?.map (fun info => (info.kind, info.label)) =
    other.entities[id]?.map fun info => (info.kind, info.label)

/-- Whether all relations of a store can be read back. -/
def Readable (store : FactStore) : Prop :=
  ∀ (name : String) (relation : Relation), store.relations[name]? = some relation →
    Legible name relation

/-- Whether relations of one name hold the same rows. -/
def SameRows (store other : FactStore) : Prop :=
  ∀ (name : String) (relation relation' : Relation), store.relations[name]? = some relation →
    other.relations[name]? = some relation' → ∀ row, row ∈ relation.rows ↔ row ∈ relation'.rows

/-- The bytes of a relation are its name and columns, then its rows. -/
theorem relationBytes_append (name : String) (relation : Relation) (rest : List UInt8) :
    relationBytes name relation ++ rest =
      (textBytes name ++ relation.schema.columns.flatMap columnBytes) ++
        (((Row.sort relation.rows).flatMap fun row => row.flatMap valueBytes) ++ rest) :=
  List.append_assoc _ _ _

/-- The bytes of relations that can be read back begin no value. -/
theorem headed_relationsBytes {items : List (String × Relation)}
    (hitems : ∀ item ∈ items, Legible item.1 item.2) :
    Headed (items.flatMap fun item => relationBytes item.1 item.2) := by
  cases items with
  | nil => exact fun _ hfirst => by cases hfirst
  | cons item items =>
    obtain ⟨first, rest, hname, hfirst⟩ := (hitems item List.mem_cons_self).name
    obtain ⟨byte, bytes, hbytes, hbyte⟩ := head_utf8EncodeChar hfirst
    intro head hhead
    rw [List.flatMap_cons, relationBytes, textBytes_eq_flatMap, hname, List.flatMap_cons,
      hbytes] at hhead
    cases hhead
    exact hbyte

/-- Relations that can be read back and have the same names and columns in turn are hashed from the
same bytes only if they hold the same rows. -/
theorem sort_eq_of_relationsBytes {items others : List (String × Relation)}
    (hitems : ∀ item ∈ items, Legible item.1 item.2)
    (hwidth : ∀ item ∈ items, ∀ row ∈ item.2.rows, row.length = item.2.schema.arity)
    (hothers : ∀ item ∈ others, Legible item.1 item.2)
    (hwidth' : ∀ item ∈ others, ∀ row ∈ item.2.rows, row.length = item.2.schema.arity)
    (hlayout : items.map (fun item => (item.1, item.2.schema)) =
      others.map fun item => (item.1, item.2.schema))
    (h : (items.flatMap fun item => relationBytes item.1 item.2) =
      others.flatMap fun item => relationBytes item.1 item.2) :
    items.map (fun item => (item.1, Row.sort item.2.rows)) =
      others.map fun item => (item.1, Row.sort item.2.rows) := by
  induction items generalizing others with
  | nil =>
    cases others with
    | nil => rfl
    | cons item others => cases hlayout
  | cons item items ih =>
    cases others with
    | nil => cases hlayout
    | cons item' others =>
      obtain ⟨hhead, htail⟩ := List.cons_eq_cons.1 hlayout
      obtain ⟨hname, hschema⟩ := Prod.mk.inj hhead
      obtain ⟨hitem, hitems'⟩ := List.forall_mem_cons.1 hitems
      obtain ⟨hitem', hothers'⟩ := List.forall_mem_cons.1 hothers
      obtain ⟨hlength, hlengths⟩ := List.forall_mem_cons.1 hwidth
      obtain ⟨hlength', hlengths'⟩ := List.forall_mem_cons.1 hwidth'
      have hrows : ∀ row ∈ Row.sort item.2.rows, row.length = item.2.schema.arity ∧
          ∀ value ∈ row, value.ZeroFree := by
        intro row hrow
        have hmem := List.mem_mergeSort.1 hrow
        exact ⟨hlength row hmem, hitem.texts row hmem⟩
      have hrows' : ∀ row ∈ Row.sort item'.2.rows, row.length = item.2.schema.arity ∧
          ∀ value ∈ row, value.ZeroFree := by
        intro row hrow
        have hmem := List.mem_mergeSort.1 hrow
        exact ⟨hschema ▸ hlength' row hmem, hitem'.texts row hmem⟩
      -- The name and the columns are the same on both sides; what remains begins with the rows.
      rw [List.flatMap_cons, List.flatMap_cons, relationBytes_append, relationBytes_append, ← hname,
        ← hschema] at h
      have hbytes := List.append_cancel_left h
      obtain ⟨hsort, hrest⟩ := rowsBytes_append_inj hitem.columns hrows hrows'
        (headed_relationsBytes hitems') (headed_relationsBytes hothers') hbytes
      rw [List.map_cons, List.map_cons, hname, hsort,
        ih hitems' hlengths hothers' hlengths' htail hrest]

/-- The entities of stores that are laid out alike are written with the same bytes. -/
theorem SameLayout.entitiesBytes (h : store.SameLayout other) :
    (store.entities.toList.flatMap fun entry => entityBytes entry.1 entry.2) =
      other.entities.toList.flatMap fun entry => entityBytes entry.1 entry.2 := by
  have hlist := (map_toList_eq_iff _).1 h.entities
  have hbytes := congrArg (List.flatMap fun entry : UInt64 × String × String =>
    numberBytes entry.1 ++ textBytes entry.2.1 ++ textBytes entry.2.2) hlist
  rwa [List.flatMap_map, List.flatMap_map] at hbytes

/-- Built stores that are laid out alike hold the same rows exactly when, relation by relation, the
sorted listings are the same. -/
theorem SameLayout.sameRows_iff (h : store.SameLayout other) (hstore : store.Built)
    (hother : other.Built) : store.SameRows other ↔ ∀ name : String,
      store.relations[name]?.map (fun relation => Row.sort relation.rows) =
        other.relations[name]?.map fun relation => Row.sort relation.rows := by
  refine forall_congr' fun name => ?_
  have hschema := h.schemas name
  cases hleft : store.relations[name]? with
  | none =>
    rw [hleft] at hschema
    cases hright : other.relations[name]? with
    | none => simp
    | some relation' => simp [hright] at hschema
  | some relation =>
    rw [hleft] at hschema
    cases hright : other.relations[name]? with
    | none => simp [hright] at hschema
    | some relation' =>
      have hnodup := (hstore.wellFormed name relation hleft).2.2.1
      have hnodup' := (hother.wellFormed name relation' hright).2.2.1
      simp [Row.sort_eq_iff_perm, List.perm_ext_iff_of_nodup hnodup hnodup']

/-- Relations with the same names, columns and sorted rows in turn are written with the same bytes. -/
theorem relationsBytes_eq {items others : List (String × Relation)}
    (h : items.map (fun item => (item.1, item.2.schema, Row.sort item.2.rows)) =
      others.map fun item => (item.1, item.2.schema, Row.sort item.2.rows)) :
    (items.flatMap fun item => relationBytes item.1 item.2) =
      others.flatMap fun item => relationBytes item.1 item.2 := by
  have hbytes := congrArg (List.flatMap fun item : String × Schema × List Row =>
    textBytes item.1 ++ item.2.1.columns.flatMap columnBytes ++
      item.2.2.flatMap fun row => row.flatMap valueBytes) h
  rwa [List.flatMap_map, List.flatMap_map] at hbytes

/-- Built stores that are laid out alike and hold the same rows are hashed from the same bytes,
whatever order the rows came in. -/
theorem SameLayout.contentBytes_eq (hlayout : store.SameLayout other) (hstore : store.Built)
    (hother : other.Built) (hrows : store.SameRows other) :
    store.contentBytes = other.contentBytes := by
  have hsort := (hlayout.sameRows_iff hstore hother).1 hrows
  have hboth (name : String) :
      store.relations[name]?.map (fun relation => (relation.schema, Row.sort relation.rows)) =
        other.relations[name]?.map fun relation => (relation.schema, Row.sort relation.rows) := by
    have hschema := hlayout.schemas name
    have hsort := hsort name
    revert hschema hsort
    cases store.relations[name]? <;> cases other.relations[name]? <;> simp +contextual
  have hrelations := relationsBytes_eq ((map_toList_eq_iff _).1 hboth)
  exact congrArg₂ (· ++ ·) hrelations hlayout.entitiesBytes

/-- Built stores that are laid out alike and can be read back hold the same rows if they are hashed
from the same bytes. -/
theorem SameLayout.sameRows_of_contentBytes (hlayout : store.SameLayout other)
    (hstore : store.Built) (hother : other.Built) (hreadable : store.Readable)
    (hreadable' : other.Readable) (h : store.contentBytes = other.contentBytes) :
    store.SameRows other := by
  have hentry {store : FactStore} {item : String × Relation}
      (hitem : item ∈ store.relations.toList) : store.relations[item.1]? = some item.2 :=
    Std.TreeMap.mem_toList_iff_getElem?_eq_some.1 hitem
  unfold contentBytes at h
  rw [hlayout.entitiesBytes] at h
  have hrelations := List.append_cancel_right h
  have hsort := sort_eq_of_relationsBytes (fun item hitem => hreadable _ _ (hentry hitem))
    (fun item hitem => (hstore.wellFormed _ _ (hentry hitem)).2.2.2)
    (fun item hitem => hreadable' _ _ (hentry hitem))
    (fun item hitem => (hother.wellFormed _ _ (hentry hitem)).2.2.2)
    ((map_toList_eq_iff _).1 hlayout.schemas) hrelations
  exact (hlayout.sameRows_iff hstore hother).2 ((map_toList_eq_iff _).2 hsort)

/-- A store of one relation that can be read back is readable. -/
theorem readable_single {name : String} {relation : Relation} (h : Legible name relation) :
    Readable { relations := (∅ : Relations).insert name relation } := by
  intro other found hfound
  rw [Std.TreeMap.getElem?_insert] at hfound
  split at hfound
  next heq =>
    cases hfound
    exact Std.LawfulEqOrd.eq_of_compare heq ▸ h
  next => simp at hfound

/-- Rows of numbers under a name that begins with a letter can be read back. -/
theorem legible_edge {rows : List Row} (hrows : ∀ row ∈ rows, ∀ value ∈ row, value.type = .int) :
    Legible "edge" (.ofRows "edge" ⟨[⟨"from", .int⟩, ⟨"to", .int⟩]⟩ rows) := by
  refine ⟨⟨'e', _, rfl, by decide⟩, Nat.zero_lt_two, fun row hrow value hvalue text htext => ?_⟩
  have htype := hrows row ((Row.mem_distinct _ _).1 hrow) value hvalue
  rw [htext] at htype
  cases htype

/-- The steps of `steps`, except that the second leads elsewhere. -/
def detour : FactStore where
  relations := (∅ : Relations).insert "edge" (.ofRows "edge" ⟨[⟨"from", .int⟩, ⟨"to", .int⟩]⟩
    [[.int 1, .int 2], [.int 2, .int 4]])

/-- Built stores that are laid out alike and can be read back are hashed from the same bytes exactly
when their relations hold the same rows. -/
theorem contentBytes_eq_iff_sameRows (hstore : store.Built) (hother : other.Built)
    (hreadable : store.Readable) (hreadable' : other.Readable)
    (hlayout : store.SameLayout other) :
    store.contentBytes = other.contentBytes ↔ store.SameRows other :=
  ⟨hlayout.sameRows_of_contentBytes hstore hother hreadable hreadable',
    hlayout.contentBytes_eq hstore hother⟩

/-- Steps that differ in a row are hashed from different bytes. -/
theorem contentBytes_steps_ne_detour : steps.Built ∧ detour.Built ∧ steps.Readable ∧
    detour.Readable ∧ steps.SameLayout detour ∧ steps.contentBytes ≠ detour.contentBytes := by
  have hbuilt : detour.Built := built_single (by decide)
  have hsteps : steps.Readable := readable_single (legible_edge (by decide))
  have hdetour : detour.Readable := readable_single (legible_edge (by decide))
  have hlayout : steps.SameLayout detour := by
    refine ⟨fun name => ?_, fun _ => rfl⟩
    simp only [steps, detour, Std.TreeMap.getElem?_insert]
    split <;> rfl
  refine ⟨built_steps, hbuilt, hsteps, hdetour, hlayout, fun h => ?_⟩
  have hrows := (contentBytes_eq_iff_sameRows built_steps hbuilt hsteps hdetour hlayout).1 h
  have hrow := (hrows "edge" _ _ Std.TreeMap.getElem?_insert_self
    Std.TreeMap.getElem?_insert_self [.int 2, .int 3]).1 ((Row.mem_distinct _ _).2 (by decide))
  exact absurd ((Row.mem_distinct _ _).1 hrow) (by decide)

/-- Whether two stores have the same relations with the same columns and rows, and the same
entities. -/
structure SameContents (store other : FactStore) : Prop where
  schemas (name : String) :
    store.relations[name]?.map Relation.schema = other.relations[name]?.map Relation.schema
  rows : store.SameRows other
  entities (id : UInt64) : store.entities[id]? = other.entities[id]?

/-- Where the name of a relation ends and that of its first column begins leaves no trace. -/
theorem relationBytes_shift (name shifted column : String) (type : ColumnType)
    (columns : List Column) (rows : List Row) :
    relationBytes (name ++ shifted) (.ofRows (name ++ shifted) ⟨⟨column, type⟩ :: columns⟩ rows) =
      relationBytes name (.ofRows name ⟨⟨shifted ++ column, type⟩ :: columns⟩ rows) := by
  simp [relationBytes, columnBytes, textBytes, Relation.ofRows, Relation.ofDistinct]

/-- One column of numbers under a short name. -/
def numbers : FactStore where
  relations := (∅ : Relations).insert "r" (.ofRows "r" ⟨[⟨"c0", .int⟩]⟩ [[.int 1], [.int 2]])

/-- The same column where its first letter counts to the name of the relation. -/
def renumbered : FactStore where
  relations := (∅ : Relations).insert "rc" (.ofRows "rc" ⟨[⟨"0", .int⟩]⟩ [[.int 1], [.int 2]])

/-- Two built stores of different contents are hashed from the same bytes. -/
theorem contentBytes_numbers_eq_renumbered : numbers.Built ∧ renumbered.Built ∧
    ¬ numbers.SameContents renumbered ∧ numbers.contentBytes = renumbered.contentBytes := by
  refine ⟨built_single (by decide), built_single (by decide), fun h => ?_, ?_⟩
  · have hschema := h.schemas "r"
    simp [numbers, renumbered] at hschema
  · have hshift := relationBytes_shift "r" "c" "0" .int [] [[.int 1], [.int 2]]
    exact congrArg (· ++ []) (congrArg (· ++ []) hshift.symm)

end FactStore

end Stratalog
