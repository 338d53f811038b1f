import Tombola.Proofs.Json.Quoted

/-!
# A written tree is read back

A tree is written without white space, and read back when its bare words are made of letters and
digits and its brackets are not nested too deeply. A bare word is the only value that does not show
its own end, so what follows a value has to be a comma, a closing bracket or nothing.
-/

namespace Tombola.Json

open Text

/-- A word of letters and digits. -/
def Bare (w : String) : Prop := w.toList ≠ [] ∧ ∀ c ∈ w.toList, c.isAlphanum = true

/-- A tree of bare words and texts within a depth of nesting, counted as the reader counts it. -/
inductive Fits : Nat → Json → Prop
  | word {depth : Nat} {w : String} (bare : Bare w) : Fits (depth + 1) (.word w)
  | text {depth : Nat} {s : String} : Fits (depth + 1) (.text s)
  | list {depth : Nat} {items : List Json} (inner : ∀ j ∈ items, Fits (depth + 1) j) :
      Fits (depth + 2) (.list items)
  | object {depth : Nat} {fields : List (String × Json)}
      (inner : ∀ f ∈ fields, Fits (depth + 1) f.2) : Fits (depth + 2) (.object fields)

/-- What may follow a value: nothing, a comma or a closing bracket. -/
def Follows (rest : Bytes) : Prop := ∀ b tail, rest = b :: tail → isDelimiter (seen b) = true

theorem follows_nil : Follows [] := nofun

theorem follows_cons {c : Char} (hascii : c.toNat < 128) (h : isDelimiter c = true)
    (rest : Bytes) : Follows (c.toUInt8 :: rest) := by
  rintro b tail heq
  obtain ⟨rfl, rfl⟩ := List.cons.inj heq
  rwa [seen_toUInt8 hascii]

/-- A byte that a value can start with: not white space, no comma and no closing bracket. -/
def Opens (b : UInt8) : Prop := isSpaceByte b = false ∧ isDelimiter (seen b) = false

theorem skipSpace_cons {b : UInt8} (h : isSpaceByte b = false) (rest : Bytes) :
    skipSpace (b :: rest) = b :: rest :=
  List.dropWhile_cons_of_neg (Bool.eq_false_iff.mp h)

/-! ## Bare words -/

theorem ne_of_alphanum {c d : Char} (h : c.isAlphanum = true) (hd : d.isAlphanum = false) :
    c ≠ d := by
  rintro rfl
  rw [h] at hd
  cases hd

theorem opens_of_alphanum {c : Char} (h : c.isAlphanum = true) : Opens c.toUInt8 := by
  have hother (d : Char) (hd : d.isAlphanum = false) : (c == d) = false :=
    beq_eq_false_iff_ne.mpr (ne_of_alphanum h hd)
  rw [Opens, isSpaceByte, seen_toUInt8 (ascii_of_isAlphanum h), isJsonSpace, isDelimiter]
  simp [hother]

theorem bytesOf_alphanum {cs : List Char} (h : ∀ c ∈ cs, c.isAlphanum = true) :
    bytesOf cs = cs.map Char.toUInt8 := by
  induction cs with
  | nil => rfl
  | cons c cs ih =>
      obtain ⟨hc, hcs⟩ := List.forall_mem_cons.mp h
      rw [bytesOf_cons, utf8EncodeChar_ascii (ascii_of_isAlphanum hc), ih hcs]
      rfl

/-- A bare word ends where something else may follow. -/
theorem readWord_bare {w : String} (hw : Bare w) {rest : Bytes} (hrest : Follows rest) :
    readWord (bytesOf w.toList ++ rest) = (w, rest) := by
  have hopens : ∀ b ∈ bytesOf w.toList, Opens b := by
    intro b hb
    rw [bytesOf_alphanum hw.2] at hb
    obtain ⟨c, hc, rfl⟩ := List.mem_map.mp hb
    exact opens_of_alphanum (hw.2 c hc)
  have hspan : (bytesOf w.toList ++ rest).span (fun b => !isDelimiter (seen b)) =
      (bytesOf w.toList, rest) := by
    have hall : ∀ b ∈ bytesOf w.toList, (!isDelimiter (seen b)) = true := fun b hb => by
      rw [(hopens b hb).2]
      rfl
    have hstop : rest.takeWhile (fun b => !isDelimiter (seen b)) = [] ∧
        rest.dropWhile (fun b => !isDelimiter (seen b)) = rest := by
      cases rest with
      | nil => exact ⟨rfl, rfl⟩
      | cons b tail => simp [hrest b tail rfl]
    rw [List.span_eq_takeWhile_dropWhile, List.takeWhile_append_of_pos hall,
      List.dropWhile_append_of_pos hall, hstop.1, hstop.2, List.append_nil]
  have hkept : (bytesOf w.toList).reverse.dropWhile isSpaceByte = (bytesOf w.toList).reverse := by
    rw [List.dropWhile_eq_self_iff]
    intro hlen
    have hmem := List.mem_reverse.mp (List.getElem_mem hlen)
    rw [(hopens _ hmem).1]
    exact Bool.false_ne_true
  rw [readWord, hspan]
  simp only [hkept, List.reverse_reverse, wordText, ofUtf8?_bytesOf, String.ofList_toList,
    Option.getD_some]

/-! ## Values one after the other -/

section Inner

variable {value : Bytes → Option (Json × Bytes)}

/-- A reader takes a written tree off the front, and the tree starts as values do. -/
structure Takes (value : Bytes → Option (Json × Bytes)) (j : Json) : Prop where
  opens : ∃ b tail, bytesOf (chars j) = b :: tail ∧ Opens b
  reads : ∀ rest, Follows rest → value (bytesOf (chars j) ++ rest) = some (j, rest)

/-- What is written after an item: a comma and the next one, or the closing bracket. -/
def afterItem : List Json → List Char
  | [] => [']']
  | j :: items => ',' :: (chars j ++ afterItem items)

theorem itemChars_cons (j : Json) (items : List Json) :
    itemChars (j :: items) = chars j ++ afterItem items := by
  induction items generalizing j with
  | nil => rfl
  | cons k items ih => rw [itemChars, ih k]; rfl

theorem follows_afterItem (items : List Json) (rest : Bytes) :
    Follows (bytesOf (afterItem items) ++ rest) := by
  cases items with
  | nil => exact follows_cons (by decide : (']' : Char).toNat < 128) rfl rest
  | cons j items => exact follows_cons (by decide : (',' : Char).toNat < 128) rfl _

theorem elements_afterItem {items : List Json} (h : ∀ j ∈ items, Takes value j) {fuel : Nat}
    (hfuel : items.length < fuel) (rest : Bytes) :
    elements value fuel false (bytesOf (afterItem items) ++ rest) = some (items, rest) := by
  induction items generalizing fuel with
  | nil =>
      obtain ⟨fuel, rfl⟩ := Nat.exists_eq_add_of_lt hfuel
      rfl
  | cons j items ih =>
      obtain ⟨hj, hitems⟩ := List.forall_mem_cons.mp h
      obtain ⟨fuel, rfl⟩ : ∃ n, fuel = n + 1 := ⟨fuel - 1, by omega⟩
      have hbytes : bytesOf (afterItem (j :: items)) ++ rest =
          ','.toUInt8 :: (bytesOf (chars j) ++ (bytesOf (afterItem items) ++ rest)) := by
        rw [afterItem, bytesOf_cons, bytesOf_append, List.append_assoc, List.append_assoc]
        rfl
      have hseen : seen ','.toUInt8 = ',' := rfl
      rw [hbytes, elements, skipSpace_cons rfl]
      simp only [hseen, Char.reduceEq, if_false, if_true, hj.reads _ (follows_afterItem items rest),
        ih hitems (Nat.lt_of_succ_lt_succ hfuel), Option.map_some]

/-- A written list is taken up to its closing bracket. -/
theorem elements_itemChars {items : List Json} (h : ∀ j ∈ items, Takes value j) {fuel : Nat}
    (hfuel : items.length < fuel) (rest : Bytes) :
    elements value fuel true (bytesOf (itemChars items) ++ rest) = some (items, rest) := by
  cases items with
  | nil =>
      obtain ⟨fuel, rfl⟩ := Nat.exists_eq_add_of_lt hfuel
      rfl
  | cons j items =>
      obtain ⟨hj, hitems⟩ := List.forall_mem_cons.mp h
      obtain ⟨fuel, rfl⟩ : ∃ n, fuel = n + 1 := ⟨fuel - 1, by omega⟩
      have hreads := hj.reads _ (follows_afterItem items rest)
      obtain ⟨b, tail, hb, hspace, hdelimiter⟩ := hj.opens
      have hcomma : seen b ≠ ',' ∧ seen b ≠ ']' := by
        simp only [isDelimiter, Bool.or_eq_false_iff, beq_eq_false_iff_ne] at hdelimiter
        exact ⟨hdelimiter.1.1, hdelimiter.2⟩
      rw [hb, List.cons_append] at hreads
      rw [itemChars_cons, bytesOf_append, List.append_assoc, hb, List.cons_append, elements,
        skipSpace_cons hspace]
      simp only [hcomma.1, hcomma.2, if_false, if_true, hreads,
        elements_afterItem hitems (Nat.lt_of_succ_lt_succ hfuel), Option.map_some]

/-- A written field is taken with its name. -/
theorem readField_oneFieldChars {name : String} {j : Json} (hj : Takes value j) {rest : Bytes}
    (hrest : Follows rest) :
    readField value (bytesOf (oneFieldChars (name, j)) ++ rest) = some ((name, j), rest) := by
  obtain ⟨content, hquote, hname⟩ :=
    unquote_quote name (':'.toUInt8 :: (bytesOf (chars j) ++ rest))
  have hbytes : bytesOf (oneFieldChars (name, j)) ++ rest = '\x22'.toUInt8 :: content := by
    rw [← hquote, oneFieldChars, bytesOf_append, bytesOf_cons, List.append_assoc,
      List.append_assoc]
    rfl
  have hopen : seen '\x22'.toUInt8 = '\x22' := rfl
  have hcolon : seen ':'.toUInt8 = ':' := rfl
  have hspace : skipSpace (':'.toUInt8 :: (bytesOf (chars j) ++ rest)) =
      ':'.toUInt8 :: (bytesOf (chars j) ++ rest) := skipSpace_cons rfl _
  rw [hbytes, readField, skipSpace_cons rfl]
  simp only [hopen, if_true, hname, hspace, hcolon, hj.reads rest hrest, Option.map_some]

/-- Fields with a comma between them are taken up to the closing bracket. -/
theorem fieldsFrom_fieldChars {f : String × Json} {fields : List (String × Json)}
    (h : ∀ g ∈ f :: fields, Takes value g.2) {fuel : Nat} (hfuel : fields.length < fuel)
    (rest : Bytes) :
    fieldsFrom value fuel (bytesOf (fieldChars (f :: fields)) ++ rest) =
      some (f :: fields, rest) := by
  induction fields generalizing f fuel with
  | nil =>
      obtain ⟨fuel, rfl⟩ : ∃ n, fuel = n + 1 := ⟨fuel - 1, by omega⟩
      have hf := h f List.mem_cons_self
      have hbytes : bytesOf (fieldChars [f]) ++ rest =
          bytesOf (oneFieldChars f) ++ '\x7d'.toUInt8 :: rest := by
        rw [fieldChars, bytesOf_append, List.append_assoc]
        rfl
      have hend : seen '\x7d'.toUInt8 = '\x7d' := rfl
      rw [hbytes, fieldsFrom, readField_oneFieldChars hf (follows_cons (by decide) rfl rest)]
      dsimp only
      rw [skipSpace_cons rfl]
      simp only [hend, Char.reduceEq, if_false, if_true]
  | cons g fields ih =>
      obtain ⟨fuel, rfl⟩ : ∃ n, fuel = n + 1 := ⟨fuel - 1, by omega⟩
      obtain ⟨hf, hfields⟩ := List.forall_mem_cons.mp h
      have hbytes : bytesOf (fieldChars (f :: g :: fields)) ++ rest =
          bytesOf (oneFieldChars f) ++
            ','.toUInt8 :: (bytesOf (fieldChars (g :: fields)) ++ rest) := by
        rw [fieldChars, bytesOf_append, bytesOf_cons, List.append_assoc, List.append_assoc]
        rfl
      have hcomma : seen ','.toUInt8 = ',' := rfl
      rw [hbytes, fieldsFrom, readField_oneFieldChars hf (follows_cons (by decide) rfl _)]
      dsimp only
      rw [skipSpace_cons rfl]
      simp only [hcomma, if_true, ih hfields (Nat.lt_of_succ_lt_succ hfuel), Option.map_some]

theorem length_lt_fieldChars (f : String × Json) (fields : List (String × Json)) :
    fields.length < (fieldChars (f :: fields)).length := by
  induction fields generalizing f with
  | nil => simp [fieldChars]
  | cons g fields ih =>
      have hrest := ih g
      simp only [fieldChars, List.length_append, List.length_cons] at hrest ⊢
      omega

/-- A written object is taken up to its closing bracket. -/
theorem readFields_fieldChars {fields : List (String × Json)}
    (h : ∀ f ∈ fields, Takes value f.2) (rest : Bytes) :
    readFields value (bytesOf (fieldChars fields) ++ rest) = some (fields, rest) := by
  cases fields with
  | nil => rfl
  | cons f fields =>
      obtain ⟨tail, htail⟩ : ∃ tail,
          bytesOf (fieldChars (f :: fields)) ++ rest = '\x22'.toUInt8 :: tail := by
        obtain ⟨name, j⟩ := f
        cases fields <;> exact ⟨_, rfl⟩
      have hfuel : fields.length < tail.length + 1 := by
        have hbytes := length_le_length_bytesOf (fieldChars (f :: fields))
        have hfields := length_lt_fieldChars f fields
        have hlength := congrArg List.length htail
        rw [List.length_append, List.length_cons] at hlength
        omega
      have hquote : seen '\x22'.toUInt8 = '\x22' := rfl
      have hreads := fieldsFrom_fieldChars h hfuel rest
      rw [htail] at hreads ⊢
      rw [readFields, skipSpace_cons rfl]
      simp only [hquote, Char.reduceEq, if_false, hreads]

end Inner

/-! ## Trees -/

theorem length_lt_afterItem (items : List Json) : items.length < (afterItem items).length := by
  induction items with
  | nil => exact Nat.zero_lt_one
  | cons j items ih =>
      simp only [afterItem, List.length_cons, List.length_append]
      omega

/-- Every item takes a character at least. -/
theorem length_le_itemChars (items : List Json) : items.length ≤ (itemChars items).length := by
  cases items with
  | nil => exact Nat.zero_le _
  | cons j items =>
      have hafter := length_lt_afterItem items
      rw [itemChars_cons, List.length_append, List.length_cons]
      omega

/-- The first byte of a bare word. -/
theorem Bare.cons_bytesOf {w : String} (hw : Bare w) :
    ∃ (c : Char) (tail : Bytes), c.isAlphanum = true ∧
      bytesOf w.toList = c.toUInt8 :: tail := by
  obtain ⟨hnil, hall⟩ := hw
  rw [bytesOf_alphanum hall]
  cases hword : w.toList with
  | nil => exact absurd hword hnil
  | cons c cs => exact ⟨c, _, hall c (hword ▸ List.mem_cons_self), rfl⟩

/-- What is written starts as values do. -/
theorem Fits.opens {depth : Nat} {j : Json} (h : Fits depth j) :
    ∃ b tail, bytesOf (chars j) = b :: tail ∧ Opens b := by
  cases h with
  | word hbare =>
      obtain ⟨c, tail, hc, hbytes⟩ := hbare.cons_bytesOf
      exact ⟨c.toUInt8, tail, hbytes, opens_of_alphanum hc⟩
  | text => exact ⟨_, _, rfl, rfl, rfl⟩
  | list _ => exact ⟨_, _, rfl, rfl, rfl⟩
  | object _ => exact ⟨_, _, rfl, rfl, rfl⟩

/-- A tree is read back as far as it is written. -/
theorem Fits.takes {depth : Nat} {j : Json} (h : Fits depth j) : Takes (readValue depth) j := by
  refine ⟨h.opens, ?_⟩
  induction h with
  | @word _ w hbare =>
      intro rest hrest
      have hword := readWord_bare hbare hrest
      obtain ⟨c, tail, hc, hbytes⟩ := hbare.cons_bytesOf
      obtain ⟨hspace, hdelimiter⟩ := opens_of_alphanum hc
      have hseen := seen_toUInt8 (ascii_of_isAlphanum hc)
      rw [hseen] at hdelimiter
      rw [hbytes, List.cons_append] at hword
      rw [chars, hbytes, List.cons_append, readValue, skipSpace_cons hspace]
      simp only [hseen, ne_of_alphanum hc (by decide : ('\x22' : Char).isAlphanum = false),
        ne_of_alphanum hc (by decide : ('[' : Char).isAlphanum = false),
        ne_of_alphanum hc (by decide : ('\x7b' : Char).isAlphanum = false), hdelimiter, if_false,
        Bool.false_eq_true, hword]
  | @text _ s =>
      intro rest _
      obtain ⟨content, hquote, htext⟩ := unquote_quote s rest
      have hopen : seen '\x22'.toUInt8 = '\x22' := rfl
      rw [chars, hquote, readValue, skipSpace_cons rfl]
      simp only [hopen, if_true, htext, Option.map_some]
  | @list depth items inner ih =>
      intro rest _
      have htakes : ∀ j ∈ items, Takes (readValue (depth + 1)) j := fun j hj =>
        ⟨(inner j hj).opens, ih j hj⟩
      have hbytes : bytesOf (chars (.list items)) ++ rest =
          '['.toUInt8 :: (bytesOf (itemChars items) ++ rest) := rfl
      have hfuel : items.length < (bytesOf (itemChars items) ++ rest).length + 1 := by
        have hitems := length_le_itemChars items
        have hlength := length_le_length_bytesOf (itemChars items)
        rw [List.length_append]
        omega
      have hopen : seen '['.toUInt8 = '[' := rfl
      rw [hbytes, readValue, skipSpace_cons rfl]
      simp only [hopen, Char.reduceEq, if_false, if_true, Nat.succ_ne_zero,
        elements_itemChars htakes hfuel, Option.map_some]
  | @object depth fields inner ih =>
      intro rest _
      have htakes : ∀ f ∈ fields, Takes (readValue (depth + 1)) f.2 := fun f hf =>
        ⟨(inner f hf).opens, ih f hf⟩
      have hbytes : bytesOf (chars (.object fields)) ++ rest =
          '\x7b'.toUInt8 :: (bytesOf (fieldChars fields) ++ rest) := rfl
      have hopen : seen '\x7b'.toUInt8 = '\x7b' := rfl
      rw [hbytes, readValue, skipSpace_cons rfl]
      simp only [hopen, Char.reduceEq, if_false, if_true, Nat.succ_ne_zero,
        readFields_fieldChars htakes, Option.map_some]

/-- A tree within the depth limit is what its text is read as. -/
theorem parse?_render {j : Json} (h : Fits depthLimit j) : parse? j.render = some j := by
  have hreads := h.takes.reads [] follows_nil
  rw [List.append_nil] at hreads
  rw [parse?, render, utf8_ofList, ofBytes?, hreads]
  rfl

end Tombola.Json
