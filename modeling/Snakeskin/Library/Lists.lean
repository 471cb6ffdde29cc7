import Mathlib.Data.List.Forall2

/-! # Lists

What the developments above need of lists and what the standard library does not state:

* `append_cons_eq_append_cons` — two ways of cutting a list at an element;
  `append_cons_inj_of_notMem_left` and `append_cons_inj_of_notMem_right` are the cases in which the
  element is cut at where it occurs first, or last.
* `eq_of_map_eq` — a list is determined by the keys of its elements, as far as the keys determine
  these.
* `mapM_eq_mapM` — mapping functions that agree on a list.
* `Forall₂.map_eq_map`, `Forall₂.getElem?`, `Forall₂.flatMap` — related lists under the operations
  of lists. -/

namespace List

universe u v w

/-! ## Cuts -/

section Cuts

variable {α : Type u} {a b c d : List α} {x y : α}

/-- Two cuts of a list at an element: the first is earlier, the same, or later. -/
theorem append_cons_eq_append_cons (h : a ++ x :: c = b ++ y :: d) :
    x ∈ b ∨ (a = b ∧ x = y ∧ c = d) ∨
      ∃ between, a = b ++ y :: between ∧ d = between ++ x :: c := by
  obtain ⟨between, hb, hc⟩ | ⟨between, ha, hd⟩ := List.append_eq_append_iff.mp h
  · cases between with
    | nil =>
        obtain ⟨rfl, rfl⟩ := List.cons.inj hc
        exact .inr (.inl ⟨by rw [hb, List.append_nil], rfl, rfl⟩)
    | cons z between =>
        obtain ⟨rfl, -⟩ := List.cons.inj hc
        rw [hb]
        exact .inl (List.mem_append_right _ List.mem_cons_self)
  · cases between with
    | nil =>
        obtain ⟨rfl, rfl⟩ := List.cons.inj hd
        exact .inr (.inl ⟨by rw [ha, List.append_nil], rfl, rfl⟩)
    | cons z between =>
        obtain ⟨rfl, hlater⟩ := List.cons.inj hd
        exact .inr (.inr ⟨between, ha, hlater⟩)

/-- Up to the first occurrence of an element two lists with the same continuation agree. -/
theorem append_cons_inj_of_notMem_left (ha : x ∉ a) (hb : x ∉ b) (h : a ++ x :: c = b ++ x :: d) :
    a = b ∧ c = d := by
  obtain hmem | ⟨hab, -, hcd⟩ | ⟨between, rfl, -⟩ := append_cons_eq_append_cons h
  · exact absurd hmem hb
  · exact ⟨hab, hcd⟩
  · exact absurd (List.mem_append_right _ List.mem_cons_self) ha

/-- From the last occurrence of an element on two lists with the same beginning agree. -/
theorem append_cons_inj_of_notMem_right (hc : x ∉ c) (hd : x ∉ d) (h : a ++ x :: c = b ++ x :: d) :
    a = b ∧ c = d := by
  have hreverse : c.reverse ++ x :: a.reverse = d.reverse ++ x :: b.reverse := by
    simpa using congrArg List.reverse h
  obtain ⟨hcd, hab⟩ := append_cons_inj_of_notMem_left (by rwa [List.mem_reverse])
    (by rwa [List.mem_reverse]) hreverse
  exact ⟨List.reverse_injective hab, List.reverse_injective hcd⟩

end Cuts

/-! ## Maps -/

/-- Lists with the same keys are the same if elements of the same key are. -/
theorem eq_of_map_eq {α : Type u} {κ : Type v} {key : α → κ} {as bs : List α}
    (hkeys : as.map key = bs.map key) (h : ∀ a ∈ as, ∀ b ∈ bs, key a = key b → a = b) : as = bs := by
  induction as generalizing bs with
  | nil => exact (List.map_eq_nil_iff.mp hkeys.symm).symm
  | cons a as ih =>
      cases bs with
      | nil => cases hkeys
      | cons b bs =>
          obtain ⟨hkey, hrest⟩ := List.cons.inj hkeys
          rw [h a List.mem_cons_self b List.mem_cons_self hkey,
            ih hrest fun a ha b hb => h a (List.mem_cons_of_mem _ ha) b (List.mem_cons_of_mem _ hb)]

/-- Functions that agree on a list give the same when they are mapped over it. -/
theorem mapM_eq_mapM {m : Type u → Type v} [Monad m] [LawfulMonad m] {α : Type w} {β : Type u}
    {f g : α → m β} {as : List α} (h : ∀ a ∈ as, f a = g a) : as.mapM f = as.mapM g := by
  induction as with
  | nil => rfl
  | cons a as ih =>
      rw [List.mapM_cons, List.mapM_cons, h a List.mem_cons_self,
        ih fun a' ha' => h a' (List.mem_cons_of_mem _ ha')]

/-! ## Related lists -/

namespace Forall₂

variable {α : Type u} {β : Type v} {R : α → β → Prop} {as : List α} {bs : List β}

/-- Elements that are related have equal images. -/
theorem map_eq_map {γ : Type w} {f : α → γ} {g : β → γ} (h : Forall₂ R as bs)
    (hfg : ∀ a ∈ as, ∀ b, R a b → g b = f a) : bs.map g = as.map f := by
  induction h with
  | nil => rfl
  | cons hab _ ih =>
      rw [List.map_cons, List.map_cons, hfg _ List.mem_cons_self _ hab,
        ih fun a hmem => hfg a (List.mem_cons_of_mem _ hmem)]

/-- An element is related to the one at the same index. -/
theorem getElem? (h : Forall₂ R as bs) {i : Nat} {a : α} (ha : as[i]? = some a) :
    ∃ b, bs[i]? = some b ∧ R a b := by
  induction h generalizing i with
  | nil => cases ha
  | @cons first b _ _ hab _ ih =>
      cases i with
      | zero =>
          cases ha
          exact ⟨b, rfl, hab⟩
      | succ i => exact ih ha

/-- Lists of related lists are related when they are put together. -/
theorem flatMap {γ δ : Type w} {P : γ → δ → Prop} {f : α → List γ} {g : β → List δ}
    (h : Forall₂ R as bs) (hfg : ∀ a ∈ as, ∀ b, R a b → Forall₂ P (f a) (g b)) :
    Forall₂ P (as.flatMap f) (bs.flatMap g) := by
  induction h with
  | nil => exact .nil
  | cons hab _ ih =>
      rw [List.flatMap_cons, List.flatMap_cons]
      exact List.rel_append (hfg _ List.mem_cons_self _ hab)
        (ih fun a hmem => hfg a (List.mem_cons_of_mem _ hmem))

end Forall₂

end List
