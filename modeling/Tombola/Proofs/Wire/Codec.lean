import Tombola.Proofs.Json.RoundTrip
import Tombola.Proofs.Text.Numerals
import Tombola.Wire.Codec

/-!
# Codecs that read what they write and nothing that is flawed

A codec is faithful when every value is read back from what is written for it. It is strict when it
refuses every tree that names its parts wrongly, at any depth. Both are kept by each way to put
codecs together, so they hold of a type by the way its codec is made.
-/

namespace Tombola.Wire

/-- A tree that names the parts of a shape wrongly: a closed record has a field it does not know, a
known field comes twice, a field that can not be left out is missing, or there is not exactly one
tag, and that a known one; or there is such a flaw in a part. -/
inductive Flawed : Shape → Json → Prop
  | unknown {fields : List (String × Shape)} {parts : List (String × Json)} {name : String}
      (present : name ∈ parts.map (·.1)) (foreign : name ∉ fields.map (·.1)) :
      Flawed (.record fields true) (.object parts)
  | repeated {fields : List (String × Shape)} {closed : Bool} {parts : List (String × Json)}
      {name : String} (known : name ∈ fields.map (·.1))
      (several : 2 ≤ (parts.map (·.1)).count name) :
      Flawed (.record fields closed) (.object parts)
  | missing {fields : List (String × Shape)} {closed : Bool} {parts : List (String × Json)}
      {name : String} {shape : Shape} (known : (name, shape) ∈ fields)
      (required : shape.isOptional = false) (missing : name ∉ parts.map (·.1)) :
      Flawed (.record fields closed) (.object parts)
  | field {fields : List (String × Shape)} {closed : Bool} {parts : List (String × Json)}
      {name : String} {shape : Shape} {j : Json} (known : (name, shape) ∈ fields)
      (present : (name, j) ∈ parts) (inner : Flawed shape j) :
      Flawed (.record fields closed) (.object parts)
  | tags {cases : List (String × Shape)} {parts : List (String × Json)}
      (several : parts.length ≠ 1) : Flawed (.variants cases) (.object parts)
  | tag {cases : List (String × Shape)} {tag : String} {j : Json}
      (foreign : tag ∉ cases.map (·.1)) : Flawed (.variants cases) (.object [(tag, j)])
  | body {cases : List (String × Shape)} {tag : String} {shape : Shape} {j : Json}
      (known : (tag, shape) ∈ cases) (inner : Flawed shape j) :
      Flawed (.variants cases) (.object [(tag, j)])
  | item {shape : Shape} {items : List Json} {j : Json} (present : j ∈ items)
      (inner : Flawed shape j) : Flawed (.list shape) (.list items)
  | optional {shape : Shape} {j : Json} (inner : Flawed shape j) : Flawed (.optional shape) j
  | named {name : String} {shape : Shape} {j : Json} (inner : Flawed shape j) :
      Flawed (.named name shape) j
  | remarked {shape : Shape} {j : Json} (inner : Flawed shape j) : Flawed (.remarked shape) j

/-- A bare word has no parts. -/
theorem Flawed.ne_word {shape : Shape} {j : Json} (h : Flawed shape j) (w : String) :
    j ≠ .word w := by
  induction h with
  | optional _ ih => exact ih
  | named _ ih => exact ih
  | remarked _ ih => exact ih
  | _ => nofun

namespace Codec

variable {α β : Type} {c : Codec α} {depth : Nat}

/-- What is written can be read within a depth, and is read as the value that it was written for. -/
structure Faithful (depth : Nat) (c : Codec α) : Prop where
  fits : ∀ a, Json.Fits depth (c.write a)
  reads : ∀ a, c.read? (c.write a) = some a

/-- Nothing flawed is read, and a field with no value is read only where it can be left out. -/
structure Strict (c : Codec α) : Prop where
  refuses : ∀ j, Flawed c.shape j → c.read? j = none
  required : c.shape.isOptional = false → c.absent? = none

/-- The codec reads back what it writes and refuses what has a flaw. -/
structure Sound (depth : Nat) (c : Codec α) : Prop extends Faithful depth c, Strict c

/-- No value is written as null. -/
def Present (c : Codec α) : Prop := ∀ a, c.write a ≠ .null

/-! ## Simple values -/

theorem bare_toString (n : Nat) : Json.Bare (toString n) := by
  have hnumeral := Text.numeral_toString n
  refine ⟨hnumeral.nonempty, fun c hc => ?_⟩
  rw [Char.isAlphanum, hnumeral.digits c hc, Bool.or_true]

theorem sound_ofText {write : α → String} {read? : String → Option α}
    (h : ∀ a, read? (write a) = some a) : (ofText write read?).Sound (depth + 1) where
  fits _ := .text
  reads := h
  refuses _ := nofun
  required _ := rfl

theorem sound_text : text.Sound (depth + 1) := sound_ofText fun _ => rfl

theorem sound_flag : flag.Sound (depth + 1) where
  fits b := .word (by cases b <;> exact ⟨by simp, by simp⟩)
  reads b := by cases b <;> rfl
  refuses _ := nofun
  required _ := rfl

theorem present_flag : flag.Present := by
  intro b
  cases b <;> simp [flag, Json.ofBool, Json.null]

theorem sound_natBelow (bound : Nat) (format : String) :
    (natBelow bound format).Sound (depth + 1) where
  fits n := .word (bare_toString n.1)
  reads n := by
    show (do
      let m ← Text.strict? (toString n.1).toList
      if h : m < bound then some (⟨m, h⟩ : { n : Nat // n < bound }) else none) = some n
    rw [Text.strict?_toString, Option.bind_eq_bind, Option.bind_some, dif_pos n.2]
  refuses _ := nofun
  required _ := rfl

theorem present_natBelow (bound : Nat) (format : String) : (natBelow bound format).Present := by
  intro n heq
  have hword : toString n.1 = "null" := Json.word.inj heq
  have hdigit := (Text.numeral_toString n.1).digits 'n' (by simp [hword])
  exact absurd hdigit (by decide)

theorem Sound.via {view : β → α} {make : α → β} (h : c.Sound depth)
    (hmake : ∀ b, make (view b) = b) : (c.via view make).Sound depth where
  fits b := h.fits (view b)
  reads b := by
    show (c.read? (c.write (view b))).map make = some b
    rw [h.reads, Option.map_some, hmake]
  refuses j hj := by
    show (c.read? j).map make = none
    rw [h.refuses j hj, Option.map_none]
  required hc := by
    show c.absent?.map make = none
    rw [h.required hc, Option.map_none]

theorem sound_uint64 : uint64.Sound (depth + 1) := (sound_natBelow _ _).via fun _ => rfl

theorem sound_uint32 : uint32.Sound (depth + 1) := (sound_natBelow _ _).via fun _ => rfl

theorem present_uint64 : uint64.Present := fun _ => present_natBelow UInt64.size "uint64" _

theorem present_uint32 : uint32.Present := fun _ => present_natBelow UInt32.size "uint32" _

/-! ## Lists, values that may be absent, names -/

theorem mapM_read?_write (h : c.Faithful depth) (as : List α) :
    (as.map c.write).mapM c.read? = some as := by
  induction as with
  | nil => rfl
  | cons a as ih =>
      rw [List.map_cons, List.mapM_cons, h.reads, ih]
      rfl

theorem mapM_eq_none {f : Json → Option α} {items : List Json} {j : Json} (hj : j ∈ items)
    (hnone : f j = none) : items.mapM f = none := by
  induction items with
  | nil => cases hj
  | cons k items ih =>
      rw [List.mapM_cons]
      rcases List.mem_cons.mp hj with rfl | hj
      · rw [hnone]
        rfl
      · rw [ih hj]
        cases f k <;> rfl

theorem Sound.list (h : c.Sound (depth + 1)) : (Codec.list c).Sound (depth + 2) where
  fits as := .list fun j hj => by
    obtain ⟨a, _, rfl⟩ := List.mem_map.mp hj
    exact h.fits a
  reads as := mapM_read?_write h.toFaithful as
  refuses j hj := by
    cases hj with
    | item present inner => exact mapM_eq_none present (h.refuses _ inner)
  required _ := rfl

theorem optional_read?_of_ne_null {j : Json} (h : j ≠ .null) :
    (optional c).read? j = (c.read? j).map some := by
  simp only [optional]
  split
  · exact absurd rfl h
  · rfl

theorem Sound.optional (h : c.Sound (depth + 1)) (hpresent : c.Present) :
    (Codec.optional c).Sound (depth + 1) where
  fits
    | none => .word ⟨by simp, by simp⟩
    | some a => h.fits a
  reads
    | none => rfl
    | some a => by
      show (Codec.optional c).read? (c.write a) = some (some a)
      rw [optional_read?_of_ne_null (hpresent a), h.reads, Option.map_some]
  refuses j hj := by
    cases hj with
    | optional inner =>
        rw [optional_read?_of_ne_null (inner.ne_word _), h.refuses j inner, Option.map_none]
  required := nofun

theorem Sound.named (h : c.Sound depth) (hshape : c.shape.isOptional = false) (name : String) :
    (c.named name).Sound depth where
  fits := h.fits
  reads := h.reads
  refuses j hj := by
    cases hj with
    | named inner => exact h.refuses j inner
  required _ := h.required hshape

theorem Sound.remarked (h : c.Sound depth) (hshape : c.shape.isOptional = false) :
    c.remarked.Sound depth where
  fits := h.fits
  reads := h.reads
  refuses j hj := by
    cases hj with
    | remarked inner => exact h.refuses j inner
  required _ := h.required hshape

end Codec

/-! ## Records -/

/-- A name that comes once has one value. -/
theorem lookup_of_count_le_one {parts : List (String × Json)} {name : String} {j : Json}
    (hcount : (parts.map (·.1)).count name ≤ 1) (hj : (name, j) ∈ parts) :
    parts.lookup name = some j := by
  induction parts with
  | nil => cases hj
  | cons part parts ih =>
      obtain ⟨other, k⟩ := part
      rw [List.map_cons, List.count_cons] at hcount
      rcases List.mem_cons.mp hj with heq | hlater
      · obtain ⟨rfl, rfl⟩ := Prod.mk.inj heq
        exact List.lookup_cons_self
      · have hpos : 0 < (parts.map (·.1)).count name :=
          List.count_pos_iff.mpr (List.mem_map.mpr ⟨(name, j), hlater, rfl⟩)
        have hother : (name == other) = false := by
          rw [beq_eq_false_iff_ne]
          rintro rfl
          rw [beq_self_eq_true, if_pos rfl] at hcount
          omega
        rw [List.lookup_cons, hother]
        exact ih (by omega) hlater

theorem lookup_of_notMem {parts : List (String × Json)} {name : String}
    (h : name ∉ parts.map (·.1)) : parts.lookup name = none := by
  rw [List.lookup_eq_none_iff]
  rintro ⟨other, j⟩ hpart
  rw [bne_iff_ne]
  rintro rfl
  exact h (List.mem_map.mpr ⟨_, hpart, rfl⟩)

namespace Fields

variable {σ α β : Type} {depth : Nat}

/-- The fields write their names in order, and are read from any object that has what they write
under these names. They are not read when one that has to be there is missing or one is flawed. -/
structure Sound (depth : Nat) (f : Fields σ α) (get : σ → α) : Prop where
  names : ∀ s, (f.write s).map (·.1) = f.names
  fits : ∀ s, ∀ part ∈ f.write s, Json.Fits depth part.2
  reads : ∀ s parts, (∀ part ∈ f.write s, parts.lookup part.1 = some part.2) →
    f.read? parts = some (get s)
  refuses : ∀ parts name shape, (name, shape) ∈ f.shapes →
    (shape.isOptional = false ∧ parts.lookup name = none ∨
      ∃ j, parts.lookup name = some j ∧ Flawed shape j) → f.read? parts = none

theorem sound_pure (a : α) : (Pure.pure a : Fields σ α).Sound depth fun _ => a where
  names _ := rfl
  fits _ := nofun
  reads _ _ _ := rfl
  refuses _ _ _ := nofun

theorem Sound.seq {f : Fields σ (α → β)} {x : Fields σ α} {make : σ → α → β} {get : σ → α}
    (hf : f.Sound depth make) (hx : x.Sound depth get) :
    (f <*> x).Sound depth fun s => make s (get s) where
  names s := by
    show (f.write s ++ x.write s).map (·.1) = (f.shapes ++ x.shapes).map (·.1)
    rw [List.map_append, List.map_append, hf.names, hx.names]
    rfl
  fits s part hpart := (List.mem_append.mp hpart).elim (hf.fits s part) (hx.fits s part)
  reads s parts hparts := by
    have hmake := hf.reads s parts fun part hpart => hparts part (List.mem_append_left _ hpart)
    have hget := hx.reads s parts fun part hpart => hparts part (List.mem_append_right _ hpart)
    show (do let g ← f.read? parts; let a ← x.read? parts; some (g a)) = _
    rw [hmake, hget]
    rfl
  refuses parts name shape hshape hflaw := by
    show (do let g ← f.read? parts; let a ← x.read? parts; some (g a)) = none
    rcases List.mem_append.mp hshape with hshape | hshape
    · rw [hf.refuses parts name shape hshape hflaw]
      rfl
    · rw [hx.refuses parts name shape hshape hflaw]
      cases f.read? parts <;> rfl

theorem Sound.map {x : Fields σ α} {get : σ → α} (hx : x.Sound depth get) (make : α → β) :
    (make <$> x).Sound depth fun s => make (get s) := (sound_pure make).seq hx

theorem sound_field {c : Codec α} (h : c.Sound depth) (name : String) (get : σ → α) :
    (field name get c).Sound depth get where
  names _ := rfl
  fits s part hpart := by
    obtain rfl := List.mem_singleton.mp hpart
    exact h.fits (get s)
  reads s parts hparts := by
    have hlookup := hparts (name, c.write (get s)) List.mem_cons_self
    simp only [field]
    rw [hlookup]
    exact h.reads (get s)
  refuses parts name' shape hshape hflaw := by
    obtain ⟨rfl, rfl⟩ := Prod.mk.inj (List.mem_singleton.mp hshape)
    simp only [field]
    rcases hflaw with ⟨hrequired, hmissing⟩ | ⟨j, hpresent, hflawed⟩
    · rw [hmissing]
      exact h.required hrequired
    · rw [hpresent]
      exact h.refuses j hflawed

end Fields

namespace Codec

variable {σ : Type} {depth : Nat} {f : Fields σ σ}

/-- An object is admitted when it has no name that a closed record does not know and no known name
twice. -/
theorem admitted_iff {closed : Bool} {present : List String} :
    ((!closed || present.all f.names.contains) &&
      decide (present.filter f.names.contains).Nodup) = true ↔
    (closed = true → ∀ name ∈ present, name ∈ f.names) ∧
      ∀ name ∈ f.names, present.count name ≤ 1 := by
  rw [Bool.and_eq_true, decide_eq_true_eq, List.nodup_iff_count_le_one]
  apply and_congr
  · cases closed <;> simp
  · constructor
    · intro honce name hname
      have hcount := honce name
      rwa [List.count_filter (by simpa using hname)] at hcount
    · intro honce name
      by_cases hname : name ∈ f.names
      · rw [List.count_filter (by simpa using hname)]
        exact honce name hname
      · rw [List.count_eq_zero.mpr (by simp [hname])]
        exact Nat.zero_le 1

/-- The fields of an admitted object are read. -/
theorem ofObject?_of_admitted {closed : Bool} {parts : List (String × Json)}
    (hknown : closed = true → ∀ name ∈ parts.map (·.1), name ∈ f.names)
    (honce : ∀ name ∈ f.names, (parts.map (·.1)).count name ≤ 1) :
    f.ofObject? closed (.object parts) = f.read? parts :=
  if_pos (admitted_iff.mpr ⟨hknown, honce⟩)

/-- What is read is an admitted object, by its fields. -/
theorem ofObject?_ne_none {closed : Bool} {parts : List (String × Json)}
    (h : f.ofObject? closed (.object parts) ≠ none) : f.read? parts ≠ none ∧
      (closed = true → ∀ name ∈ parts.map (·.1), name ∈ f.names) ∧
      ∀ name ∈ f.names, (parts.map (·.1)).count name ≤ 1 := by
  simp only [Fields.ofObject?] at h
  split at h
  · next hadmitted => exact ⟨h, admitted_iff.mp hadmitted⟩
  · exact absurd rfl h

/-- A record is read back, and refused when it is flawed. -/
theorem sound_recordOf {get : σ → σ} (h : f.Sound (depth + 1) get) (hget : ∀ s, get s = s)
    (hnodup : f.names.Nodup) (closed : Bool) : (recordOf closed f).Sound (depth + 2) where
  fits s := .object (h.fits s)
  reads s := by
    have honce (name : String) : ((f.write s).map (·.1)).count name ≤ 1 := by
      rw [h.names]
      exact List.nodup_iff_count_le_one.mp hnodup name
    have hknown : closed = true → ∀ name ∈ (f.write s).map (·.1), name ∈ f.names := fun _ _ hname =>
      h.names s ▸ hname
    show f.ofObject? closed (.object (f.write s)) = some s
    rw [ofObject?_of_admitted hknown fun name _ => honce name,
      h.reads s _ fun part hpart => lookup_of_count_le_one (honce part.1) hpart, hget]
  refuses j hj := by
    by_contra hread
    cases hj with
    | unknown present foreign =>
        obtain ⟨_, hknown, _⟩ := ofObject?_ne_none hread
        exact foreign (hknown rfl _ present)
    | repeated known several =>
        obtain ⟨_, _, honce⟩ := ofObject?_ne_none hread
        exact absurd (honce _ known) (by omega)
    | missing known required missing =>
        obtain ⟨hfields, _, _⟩ := ofObject?_ne_none hread
        exact hfields (h.refuses _ _ _ known (.inl ⟨required, lookup_of_notMem missing⟩))
    | field known present inner =>
        obtain ⟨hfields, _, honce⟩ := ofObject?_ne_none hread
        have hname := honce _ (List.mem_map.mpr ⟨_, known, rfl⟩)
        exact hfields (h.refuses _ _ _ known
          (.inr ⟨_, lookup_of_count_le_one hname present, inner⟩))
  required _ := rfl

end Codec

/-! ## Sums -/

namespace Case

variable {σ α : Type} {depth : Nat}

/-- The values of a case are read back, and nothing flawed is read as one. -/
structure Sound (depth : Nat) (c : Case σ) : Prop where
  fits : ∀ s j, c.write? s = some j → Json.Fits depth j
  reads : ∀ s j, c.write? s = some j → c.read? j = some s
  refuses : ∀ j, Flawed c.shape j → c.read? j = none

theorem sound_case {c : Codec α} (h : c.Sound depth) {make : α → σ} {view? : σ → Option α}
    (hmake : ∀ s a, view? s = some a → make a = s) (tag : String) (alias? : Option String) :
    (case tag c make view? alias?).Sound depth where
  fits s j hj := by
    obtain ⟨a, _, rfl⟩ := Option.map_eq_some_iff.mp hj
    exact h.fits a
  reads s j hj := by
    obtain ⟨a, ha, rfl⟩ := Option.map_eq_some_iff.mp hj
    show (c.read? (c.write a)).map make = some s
    rw [h.reads, Option.map_some, hmake s a ha]
  refuses j hj := by
    show (c.read? j).map make = none
    rw [h.refuses j hj, Option.map_none]

/-- No case accepts the tag of another. -/
def Apart (cases : List (Case σ)) : Prop :=
  cases.Pairwise fun c c' => c.accepts c'.tag = false

instance (cases : List (Case σ)) : Decidable (Apart cases) :=
  inferInstanceAs (Decidable (cases.Pairwise fun c c' => c.accepts c'.tag = false))

theorem accepts_tag (c : Case σ) : c.accepts c.tag = true := by simp [accepts]

/-- The first case that accepts the tag of a case is that case. -/
theorem Apart.find?_accepts {cases : List (Case σ)} (h : Apart cases) {c : Case σ}
    (hc : c ∈ cases) : cases.find? (·.accepts c.tag) = some c := by
  induction cases with
  | nil => cases hc
  | cons d cases ih =>
      obtain ⟨hfirst, hrest⟩ := List.pairwise_cons.mp h
      rcases List.mem_cons.mp hc with rfl | hc
      · exact List.find?_cons_of_pos (accepts_tag c)
      · rw [List.find?_cons_of_neg (by rw [hfirst c hc]; exact Bool.false_ne_true)]
        exact ih hrest hc

end Case

namespace Codec

variable {σ : Type} {depth : Nat} {cases : List (Case σ)}

/-- What is written for a value is its tag with what its case writes. -/
theorem variants_write (htotal : ∀ s, (cases.findSome? (·.write? s)).isSome) (s : σ) :
    ∃ c ∈ cases, ∃ j, c.write? s = some j ∧ (variants cases).write s = .object [(c.tag, j)] := by
  have hsome : (cases.findSome? fun c =>
      (c.write? s).map fun j => Json.object [(c.tag, j)]).isSome := by
    obtain ⟨c, hc, hwrite⟩ := List.findSome?_isSome_iff.mp (htotal s)
    exact List.findSome?_isSome_iff.mpr ⟨c, hc, by rwa [Option.isSome_map]⟩
  obtain ⟨written, hwritten⟩ := Option.isSome_iff_exists.mp hsome
  obtain ⟨c, hc, hcase⟩ := List.exists_of_findSome?_eq_some hwritten
  obtain ⟨j, hj, rfl⟩ := Option.map_eq_some_iff.mp hcase
  refine ⟨c, hc, j, hj, ?_⟩
  show (cases.findSome? fun c => (c.write? s).map fun j => Json.object [(c.tag, j)]).getD .null = _
  rw [hwritten, Option.getD_some]

theorem faithful_variants (hcases : ∀ c ∈ cases, c.Sound (depth + 1)) (hapart : Case.Apart cases)
    (htotal : ∀ s, (cases.findSome? (·.write? s)).isSome) :
    (variants cases).Faithful (depth + 2) where
  fits s := by
    obtain ⟨c, hc, j, hj, hwrite⟩ := variants_write htotal s
    rw [hwrite]
    refine .object fun part hpart => ?_
    obtain rfl := List.mem_singleton.mp hpart
    exact (hcases c hc).fits s j hj
  reads s := by
    obtain ⟨c, hc, j, hj, hwrite⟩ := variants_write htotal s
    rw [hwrite]
    show (cases.find? (·.accepts c.tag) >>= (·.read? j)) = some s
    rw [hapart.find?_accepts hc]
    exact (hcases c hc).reads s j hj

/-- An object is refused when it is flawed, unless its only tag is another name of a case. -/
theorem variants_refuses (hcases : ∀ c ∈ cases, c.Sound depth) (hapart : Case.Apart cases)
    {j : Json} (hj : Flawed (variants cases).shape j)
    (halias : ∀ tag body, j = .object [(tag, body)] → ∀ c ∈ cases, c.alias? ≠ some tag) :
    (variants cases).read? j = none := by
  cases hj with
  | tags several =>
      simp only [variants]
      split
      · next heq =>
        rw [Json.object.inj heq] at several
        exact absurd rfl several
      · rfl
  | @tag _ tag body foreign =>
      have hnone : cases.find? (·.accepts tag) = none := by
        rw [List.find?_eq_none]
        intro c hc haccepts
        rw [Case.accepts, Bool.or_eq_true, beq_iff_eq, beq_iff_eq] at haccepts
        rcases haccepts with rfl | hother
        · exact foreign (List.mem_map.mpr ⟨_, List.mem_map_of_mem hc, rfl⟩)
        · exact halias tag body rfl c hc hother.symm
      show (cases.find? (·.accepts tag) >>= (·.read? body)) = none
      rw [hnone]
      rfl
  | @body _ tag shape body known inner =>
      obtain ⟨c, hc, heq⟩ := List.mem_map.mp known
      obtain ⟨rfl, rfl⟩ := Prod.mk.inj heq
      show (cases.find? (·.accepts c.tag) >>= (·.read? body)) = none
      rw [hapart.find?_accepts hc]
      exact (hcases c hc).refuses body inner

/-- A sum whose cases have one tag each is sound. -/
theorem sound_variants (hcases : ∀ c ∈ cases, c.Sound (depth + 1)) (hapart : Case.Apart cases)
    (htotal : ∀ s, (cases.findSome? (·.write? s)).isSome) (halias : ∀ c ∈ cases, c.alias? = none) :
    (variants cases).Sound (depth + 2) where
  toFaithful := faithful_variants hcases hapart htotal
  refuses j hj := variants_refuses hcases hapart hj fun _ _ _ c hc => by simp [halias c hc]
  required _ := rfl

end Codec

end Tombola.Wire
