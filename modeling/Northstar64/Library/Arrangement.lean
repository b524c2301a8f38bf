import Mathlib

structure NeighbourScan (α : Type) where
  key : α → Nat
  reach : α → Nat
  Blocks : α → Prop
  key_lt_reach : ∀ item, Blocks item → key item < reach item

namespace NeighbourScan
variable {α : Type} (S : NeighbourScan α) {first second : α} {items order : List α}

def Clears (first second : α) : Prop := S.Blocks first → S.reach first ≤ S.key second

def Orderable (first second : α) : Prop :=
  (S.key first ≤ S.key second ∧ S.Clears first second) ∨
    (S.key second ≤ S.key first ∧ S.Clears second first)

def Settled (first second : α) : Prop :=
  (S.key first ≤ S.key second → S.Clears first second) ∧
    (S.key second ≤ S.key first → S.Clears second first)

def Tied (first second : α) : Prop :=
  S.key first = S.key second ∧ (S.Blocks first ↔ ¬ S.Blocks second)

structure Arranges (order items : List α) : Prop where
  perm : order.Perm items
  sorted : order.Pairwise (fun first second => S.key first ≤ S.key second)

variable {S}

theorem Clears.mono {third : α} (h : S.Clears first second) (hle : S.key second ≤ S.key third) :
    S.Clears first third := fun hblocks => (h hblocks).trans hle

theorem Clears.key_lt (h : S.Clears first second) (hblocks : S.Blocks first) :
    S.key first < S.key second := (S.key_lt_reach first hblocks).trans_le (h hblocks)

theorem Orderable.symm (h : S.Orderable first second) : S.Orderable second first := Or.symm h

theorem Settled.symm (h : S.Settled first second) : S.Settled second first := And.symm h

theorem Tied.symm (h : S.Tied first second) : S.Tied second first :=
  ⟨h.1.symm, iff_not_comm.mp h.2⟩

theorem isChain_iff_pairwise (hsorted : items.Pairwise (fun first second => S.key first ≤ S.key second)) :
    items.IsChain S.Clears ↔ items.Pairwise S.Clears := by
  induction items with
  | nil => simp
  | cons item items ih =>
    obtain ⟨hhead, htail⟩ := List.pairwise_cons.mp hsorted
    rw [List.pairwise_cons, ← ih htail]
    constructor
    · intro hchain
      refine ⟨?_, hchain.tail⟩
      cases items with
      | nil => simp
      | cons next items =>
        have hnext : S.Clears item next := (List.isChain_cons_cons.mp hchain).1
        rintro other (_ | ⟨_, hother⟩)
        · exact hnext
        · exact hnext.mono ((List.pairwise_cons.mp htail).1 other hother)
    · rintro ⟨hclears, hchain⟩
      refine hchain.cons fun next hnext => hclears next (List.mem_of_mem_head? hnext)

section Sorting
variable (S) (before : Prop → Prop → Prop)

def Ahead (first second : α) : Prop :=
  S.key first < S.key second ∨
    (S.key first = S.key second ∧ before (S.Blocks first) (S.Blocks second))

theorem exists_ahead (htotal : ∀ p q, before p q ∨ before q p)
    (htrans : ∀ {p q r}, before p q → before q r → before p r) (items : List α) :
    ∃ order, S.Arranges order items ∧ order.Pairwise (S.Ahead before) := by
  classical
  have : Std.Total (S.Ahead before) := ⟨fun first second => by
    unfold Ahead
    have hbefore := htotal (S.Blocks first) (S.Blocks second)
    rcases lt_trichotomy (S.key first) (S.key second) with h | h | h
    · exact .inl (.inl h)
    · exact hbefore.imp (fun hb => .inr ⟨h, hb⟩) (fun hb => .inr ⟨h.symm, hb⟩)
    · exact .inr (.inl h)⟩
  have : IsTrans α (S.Ahead before) := ⟨fun first second third => by
    rintro (h | ⟨h, hb⟩) (h' | ⟨h', hb'⟩)
    · exact .inl (h.trans h')
    · exact .inl (h.trans_eq h')
    · exact .inl (h.trans_lt h')
    · exact .inr ⟨h.trans h', htrans hb hb'⟩⟩
  have hsorted := items.pairwise_insertionSort (S.Ahead before)
  refine ⟨items.insertionSort (S.Ahead before), ⟨List.perm_insertionSort _ _, ?_⟩, hsorted⟩
  exact hsorted.imp (fun h => h.elim Nat.le_of_lt (fun h => h.1.le))

end Sorting

theorem exists_cleared_iff (items : List α) :
    (∃ order, S.Arranges order items ∧ order.Pairwise S.Clears) ↔ items.Pairwise S.Orderable := by
  constructor
  · rintro ⟨order, harranges, hclears⟩
    refine (harranges.perm.pairwise_iff Orderable.symm).mp ?_
    exact harranges.sorted.imp₂ (fun _ _ hle hc => .inl ⟨hle, hc⟩) hclears
  · intro horderable
    obtain ⟨order, harranges, hahead⟩ := S.exists_ahead (fun p q => p → q)
      (fun p q => by tauto) (fun hpq hqr hp => hqr (hpq hp)) items
    refine ⟨order, harranges, ?_⟩
    have horder := (harranges.perm.pairwise_iff Orderable.symm).mpr horderable
    refine hahead.imp₂ ?_ horder
    intro first second hahead hpair hblocks
    rcases hpair with ⟨-, hclears⟩ | ⟨hle, hclears⟩
    · exact hclears hblocks
    · rcases hahead with hlt | ⟨hkey, hmore⟩
      · omega
      · exact absurd (hclears.key_lt (hmore hblocks)) (by omega)

end NeighbourScan

namespace Pointwise
variable {α β γ : Type} {R : α → β → Prop} {S : β → γ → Prop} {T : α → γ → Prop}

theorem comp (h : ∀ a b c, R a b → S b c → T a c) {l : List α} {m : List β} {n : List γ}
    (hl : List.Forall₂ R l m) (hm : List.Forall₂ S m n) : List.Forall₂ T l n := by
  induction hl generalizing n with
  | nil =>
    cases hm
    exact .nil
  | cons hR _ ih =>
    cases hm with
    | cons hS hm => exact .cons (h _ _ _ hR hS) (ih hm)

theorem carry {m m' : List β} {n : List γ} (hperm : m'.Perm m) (h : List.Forall₂ S m n) :
    ∃ n', List.Forall₂ S m' n' ∧ n'.Perm n :=
  List.perm_comp_forall₂ hperm h

end Pointwise
