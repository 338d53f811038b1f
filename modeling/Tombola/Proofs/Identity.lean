import Tombola.Proofs.Delivery

/-!
# Which assets are told apart

Prizes are told apart by a text. The text of a token names its standard, its collection and its id
with colons between them, and an address or an id may hold colons of its own. So two tokens of one
standard can have the same text: the address of one goes on, after a colon, where the id of the
other begins. Nothing else is mistaken, and assets that are the same are always found.
-/

namespace Tombola

namespace Token

/-- The collection and the id, with a colon between them. -/
def text (t : Token) : String := t.collection ++ ":" ++ t.id

/-- The address of the first token begins with that of the second and a colon, and the rest of it
stands, with a colon after it, before the first token's id in the id of the second. -/
def Overruns (t u : Token) : Prop :=
  ∃ between : String, t.collection = u.collection ++ ":" ++ between ∧
    u.id = between ++ ":" ++ t.id

variable {t u : Token}

/-- Two lists that are each cut at a colon are equal when the cuts are the same, and otherwise what
is between the cuts belongs to the front of the one and to the back of the other. -/
theorem append_colon_eq_iff {a b i j : List Char} : a ++ ':' :: i = b ++ ':' :: j ↔
    (a = b ∧ i = j) ∨ (∃ m, a = b ++ ':' :: m ∧ j = m ++ ':' :: i) ∨
      ∃ m, b = a ++ ':' :: m ∧ i = m ++ ':' :: j := by
  constructor
  · intro h
    rcases List.append_eq_append_iff.mp h with ⟨cut, rfl, hi⟩ | ⟨cut, rfl, hj⟩
    · cases cut with
      | nil => exact .inl ⟨(List.append_nil a).symm, (List.cons.inj hi).2⟩
      | cons c m =>
          obtain ⟨rfl, rfl⟩ := List.cons.inj hi
          exact .inr (.inr ⟨m, rfl, rfl⟩)
    · cases cut with
      | nil => exact .inl ⟨List.append_nil b, (List.cons.inj hj).2.symm⟩
      | cons c m =>
          obtain ⟨rfl, rfl⟩ := List.cons.inj hj
          exact .inr (.inl ⟨m, rfl, rfl⟩)
  · rintro (⟨rfl, rfl⟩ | ⟨m, rfl, rfl⟩ | ⟨m, rfl, rfl⟩) <;> simp

theorem toList_text (t : Token) : t.text.toList = t.collection.toList ++ ':' :: t.id.toList := by
  simp [text]

theorem overruns_iff : t.Overruns u ↔ ∃ m, t.collection.toList = u.collection.toList ++ ':' :: m ∧
    u.id.toList = m ++ ':' :: t.id.toList := by
  constructor
  · rintro ⟨between, hcollection, hid⟩
    exact ⟨between.toList, by simp [hcollection], by simp [hid]⟩
  · rintro ⟨m, hcollection, hid⟩
    refine ⟨String.ofList m, String.toList_inj.mp ?_, String.toList_inj.mp ?_⟩
    · simp [hcollection]
    · simp [hid]

/-- Two tokens have the same text when they are the same, and when one overruns the other. -/
theorem text_eq_iff : t.text = u.text ↔
    (t.collection = u.collection ∧ t.id = u.id) ∨ t.Overruns u ∨ u.Overruns t := by
  rw [← String.toList_inj, toList_text, toList_text, append_colon_eq_iff, String.toList_inj,
    String.toList_inj, overruns_iff, overruns_iff]

/-- Only a token whose collection has a colon in its address overruns another. -/
theorem Overruns.colon_mem (h : t.Overruns u) : ':' ∈ t.collection.toList := by
  obtain ⟨m, hcollection, _⟩ := overruns_iff.mp h
  rw [hcollection]
  exact List.mem_append_right _ List.mem_cons_self

end Token

namespace Asset

/-- Tokens of one standard, with the same collection and the same id, or coins of one
denomination. -/
def Same : Asset → Asset → Prop
  | .cw721 t, .cw721 u => t.collection = u.collection ∧ t.id = u.id
  | .sg721 t, .sg721 u => t.collection = u.collection ∧ t.id = u.id
  | .coin c, .coin d => c.denom = d.denom
  | _, _ => False

/-- Tokens of one standard of which one overruns the other. -/
def Blurred : Asset → Asset → Prop
  | .cw721 t, .cw721 u => t.Overruns u ∨ u.Overruns t
  | .sg721 t, .sg721 u => t.Overruns u ∨ u.Overruns t
  | _, _ => False

variable {a b : Asset} {assets : List Asset}

theorem identity_cw721 (t : Token) : (cw721 t).identity = "cw721:" ++ t.text := by
  simp only [identity, Token.text, String.append_assoc]

theorem identity_sg721 (t : Token) : (sg721 t).identity = "sg721:" ++ t.text := by
  simp only [identity, Token.text, String.append_assoc]

/-- Two assets have the same identity when they are the same, and when they are blurred. -/
theorem identity_eq_iff : a.identity = b.identity ↔ a.Same b ∨ a.Blurred b := by
  -- What an identity begins with tells tokens of either standard and coins apart.
  cases a with
  | cw721 t =>
      cases b with
      | cw721 u =>
          rw [identity_cw721, identity_cw721, String.append_right_inj, Token.text_eq_iff]
          rfl
      | _ => simp [identity, Same, Blurred, ← String.toList_inj]
  | sg721 t =>
      cases b with
      | sg721 u =>
          rw [identity_sg721, identity_sg721, String.append_right_inj, Token.text_eq_iff]
          rfl
      | _ => simp [identity, Same, Blurred, ← String.toList_inj]
  | coin c =>
      cases b with
      | coin d => simp [identity, Same, Blurred]
      | _ => simp [identity, Same, Blurred, ← String.toList_inj]

/-- Assets are all distinct when no two of them are the same, and no two are blurred. -/
theorem allDistinct_iff : allDistinct assets = true ↔
    assets.Pairwise (fun a b => ¬a.Same b) ∧ assets.Pairwise fun a b => ¬a.Blurred b := by
  rw [allDistinct, decide_eq_true_eq, List.Nodup, List.pairwise_map, ← List.pairwise_and_iff]
  simp only [ne_eq, identity_eq_iff, not_or]

/-- One of two blurred assets is a token of a collection with a colon in its address. -/
theorem Blurred.colon_mem (h : a.Blurred b) :
    ∃ t, (a.token? = some t ∨ b.token? = some t) ∧ ':' ∈ t.collection.toList := by
  have hoverruns (t u : Token) (h : t.Overruns u ∨ u.Overruns t) :
      ∃ v, (some t = some v ∨ some u = some v) ∧ ':' ∈ v.collection.toList := by
    rcases h with h | h
    · exact ⟨t, .inl rfl, h.colon_mem⟩
    · exact ⟨u, .inr rfl, h.colon_mem⟩
  cases a with
  | cw721 t =>
      cases b with
      | cw721 u => exact hoverruns t u h
      | _ => cases h
  | sg721 t =>
      cases b with
      | sg721 u => exact hoverruns t u h
      | _ => cases h
  | coin c => cases b <;> cases h

/-- Nothing is blurred where no collection has a colon in its address. -/
theorem not_blurred_of_plain (h : ∀ t ∈ tokens assets, ':' ∉ t.collection.toList) :
    assets.Pairwise fun a b => ¬a.Blurred b := by
  apply List.pairwise_of_forall_mem_list
  intro a ha b hb hblurred
  obtain ⟨t, htoken, hcolon⟩ := hblurred.colon_mem
  have hmem : t ∈ tokens assets := by
    rcases htoken with htoken | htoken
    · exact List.mem_filterMap.mpr ⟨a, ha, htoken⟩
    · exact List.mem_filterMap.mpr ⟨b, hb, htoken⟩
  exact h t hmem hcolon

end Asset

/-- Assets are all distinct exactly when no two of them are the same and no two are tokens of one
standard of which one overruns the other. So a list in which two assets are the same is never taken
for distinct, and where no collection has a colon in its address these are the only ones refused. -/
theorem distinct_iff_none_same_or_blurred (assets : List Asset) :
    (Asset.allDistinct assets = true ↔ assets.Pairwise (fun a b => ¬a.Same b) ∧
      assets.Pairwise fun a b => ¬a.Blurred b) ∧
    ((∀ t ∈ Asset.tokens assets, ':' ∉ t.collection.toList) →
      (Asset.allDistinct assets = true ↔ assets.Pairwise fun a b => ¬a.Same b)) := by
  refine ⟨Asset.allDistinct_iff, ?_⟩
  intro hplain
  rw [Asset.allDistinct_iff]
  exact and_iff_left (Asset.not_blurred_of_plain hplain)

namespace Sample

/-- Two tokens of different collections, with a colon in the address of one and in the id of the
other. -/
def blurred : List Asset := [.cw721 ⟨"a:b", "c"⟩, .cw721 ⟨"a", "b:c"⟩]

end Sample

/-- No two of the sample's tokens are the same, and yet they are not taken for distinct. -/
theorem blurred_of_sample_not_distinct :
    Sample.blurred.Pairwise (fun a b => ¬a.Same b) ∧ Asset.allDistinct Sample.blurred = false := by
  have hsame : Sample.blurred.Pairwise fun a b => ¬a.Same b := by
    simp [Sample.blurred, Asset.Same]
  refine ⟨hsame, eq_false_of_ne_true ?_⟩
  intro hdistinct
  obtain ⟨hexact, _⟩ := distinct_iff_none_same_or_blurred Sample.blurred
  obtain ⟨_, hnone⟩ := hexact.mp hdistinct
  exact List.rel_of_pairwise_cons hnone List.mem_cons_self (.inl ⟨"b", rfl, rfl⟩)

end Tombola
