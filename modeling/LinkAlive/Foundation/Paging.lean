import Mathlib.Order.Lattice

/-!
# Pages of a queue that shrinks

A job reads the first items of an ordered selection, handles them one by one and selects
again, until it has dispatched enough, has examined enough or finds nothing. When handling
the first item takes exactly this item out of the selection, the pages make no difference:
the job is one pass over the selection as it was at the start.
-/

namespace Paging

set_option autoImplicit false

section Ranked

variable {Entry Rank : Type} [LinearOrder Rank] {rank : Entry → Rank}

def Ranked (rank : Entry → Rank) (list : List Entry) : Prop :=
  list.Pairwise fun earlier later => rank earlier < rank later

/-- `ORDER BY rank`. -/
def rankSort (rank : Entry → Rank) (list : List Entry) : List Entry :=
  list.mergeSort fun earlier later => decide (rank earlier ≤ rank later)

theorem mem_rank_sort {list : List Entry} {entry : Entry} :
    entry ∈ rankSort rank list ↔ entry ∈ list := List.mem_mergeSort

theorem Ranked.nodup {list : List Entry} (ranked : Ranked rank list) : list.Nodup :=
  List.Pairwise.imp (fun {_ _} less same => absurd (same ▸ less) (lt_irrefl _)) ranked

theorem rank_sort_ranked {list : List Entry} (nodup : list.Nodup)
    (apart : ∀ first ∈ list, ∀ second ∈ list, rank first = rank second → first = second) :
    Ranked rank (rankSort rank list) := by
  have sorted : (rankSort rank list).Pairwise fun earlier later =>
      decide (rank earlier ≤ rank later) = true := by
    apply List.pairwise_mergeSort
    · intro first second third before after
      exact decide_eq_true (le_trans (of_decide_eq_true before) (of_decide_eq_true after))
    · intro first second
      simpa using le_total (rank first) (rank second)
  have distinct : (rankSort rank list).Nodup := (List.mergeSort_perm _ _).nodup_iff.2 nodup
  refine (sorted.and distinct).imp_of_mem ?_
  rintro first second member memberSecond ⟨before, other⟩
  refine lt_of_le_of_ne (of_decide_eq_true before) fun same => other ?_
  exact apart first (mem_rank_sort.1 member) second (mem_rank_sort.1 memberSecond) same

theorem Ranked.ext {first second : List Entry} (ranked : Ranked rank first)
    (other : Ranked rank second) (same : ∀ entry, entry ∈ first ↔ entry ∈ second) :
    first = second := by
  have perm : first.Perm second :=
    (List.perm_ext_iff_of_nodup ranked.nodup other.nodup).2 same
  refine perm.eq_of_pairwise ?_ ranked other
  intro _ _ _ _ before after
  exact absurd (lt_trans before after) (lt_irrefl _)

end Ranked

variable {State Item : Type}

/-- What handling one item has made of the state, whether it changed anything, and whether the
item was dispatched. -/
structure Handled (State : Type) where
  state : State
  progress : Bool
  dispatched : Bool

structure Feed (State Item : Type) where
  select : State → List Item
  handle : State → Item → Handled State

/-- The variables of the job; `scanned` counts what it has examined. -/
structure Tally (State Item : Type) where
  state : State
  dispatched : Nat
  examined : List Item

def Tally.start (state : State) : Tally State Item := ⟨state, 0, []⟩

def Tally.scanned (tally : Tally State Item) : Nat := tally.examined.length

def Tally.add (tally : Tally State Item) (item : Item) (state : State) (dispatched : Bool) :
    Tally State Item :=
  ⟨state, tally.dispatched + dispatched.toNat, tally.examined ++ [item]⟩

def Tally.goesOn (tally : Tally State Item) (limit budget : Nat) : Bool :=
  decide (tally.dispatched < limit) && decide (tally.scanned < budget)

namespace Feed

variable (feed : Feed State Item)

def page : List Item → Tally State Item → Tally State Item × Bool
  | [], tally => (tally, false)
  | item :: rest, tally =>
      let handled := feed.handle tally.state item
      let (after, progress) := page rest (tally.add item handled.state handled.dispatched)
      (after, handled.progress || progress)

theorem page_scanned (items : List Item) (tally : Tally State Item) :
    (feed.page items tally).1.scanned = tally.scanned + items.length := by
  induction items generalizing tally with
  | nil => rfl
  | cons item rest ih =>
      simp only [page]
      rw [ih]
      simp only [Tally.scanned, Tally.add, List.length_append, List.length_cons, List.length_nil]
      omega

/-- `while`: pages of what the limit and the budget leave, until one is empty or has changed
nothing. -/
def paged (limit budget : Nat) (tally : Tally State Item) : Tally State Item :=
  if tally.goesOn limit budget then
    match (feed.select tally.state).take
        (min (limit - tally.dispatched) (budget - tally.scanned)) with
    | [] => tally
    | first :: rest =>
        let turn := feed.page (first :: rest) tally
        if turn.2 then paged limit budget turn.1 else turn.1
  else tally
termination_by budget - tally.scanned
decreasing_by
  have goes : tally.goesOn limit budget = true := by assumption
  have more := feed.page_scanned (first :: rest) tally
  simp only [Tally.goesOn, Bool.and_eq_true, decide_eq_true_eq] at goes
  simp only [List.length_cons] at more
  omega

end Feed

def onePass (settle : State → Item → State × Bool) (limit budget : Nat) :
    List Item → Tally State Item → Tally State Item
  | [], tally => tally
  | item :: rest, tally =>
      if tally.goesOn limit budget then
        let (state, dispatched) := settle tally.state item
        onePass settle limit budget rest (tally.add item state dispatched)
      else tally

/-- Handling the first item settles it, makes progress and takes it out of the selection. -/
structure Feed.Settles (feed : Feed State Item) (settle : State → Item → State × Bool) :
    Prop where
  handles : ∀ state item rest, feed.select state = item :: rest →
    feed.handle state item = ⟨(settle state item).1, true, (settle state item).2⟩
  leaves : ∀ state item rest, feed.select state = item :: rest →
    feed.select (settle state item).1 = rest

section Passes

variable {feed : Feed State Item} {settle : State → Item → State × Bool} {limit budget : Nat}

theorem one_pass_stopped {items : List Item} {tally : Tally State Item}
    (stopped : tally.goesOn limit budget = false) :
    onePass settle limit budget items tally = tally := by
  cases items with
  | nil => rfl
  | cons item rest => simp [onePass, stopped]

/-- What one page has done, as far as the rest of the job depends on it. -/
theorem page_settled (limit budget : Nat) (settles : feed.Settles settle)
    (front back : List Item) (tally : Tally State Item)
    (selected : feed.select tally.state = front ++ back)
    (room : front.length ≤ limit - tally.dispatched)
    (funds : front.length ≤ budget - tally.scanned) :
    feed.select (feed.page front tally).1.state = back ∧
      (front ≠ [] → (feed.page front tally).2 = true) ∧
      onePass settle limit budget (front ++ back) tally =
        onePass settle limit budget back (feed.page front tally).1 := by
  induction front generalizing tally with
  | nil => exact ⟨selected, fun nonempty => absurd rfl nonempty, rfl⟩
  | cons item front ih =>
      have handled := settles.handles tally.state item (front ++ back) selected
      have left := settles.leaves tally.state item (front ++ back) selected
      simp only [List.length_cons] at room funds
      have goes : tally.goesOn limit budget = true := by
        simp only [Tally.goesOn, Bool.and_eq_true, decide_eq_true_eq]
        omega
      have few : (tally.add item (settle tally.state item).1
          (settle tally.state item).2).dispatched ≤ tally.dispatched + 1 := by
        have most := Bool.toNat_le (settle tally.state item).2
        simp only [Tally.add]
        omega
      have one : (tally.add item (settle tally.state item).1
          (settle tally.state item).2).scanned = tally.scanned + 1 := by
        simp [Tally.scanned, Tally.add]
      obtain ⟨selected', -, passed⟩ := ih
        (tally.add item (settle tally.state item).1 (settle tally.state item).2) left
        (by omega) (by omega)
      simp only [Feed.page, handled, List.cons_append, onePass, goes, if_true, Bool.true_or]
      exact ⟨selected', fun _ => trivial, passed⟩

theorem paged_eq_one_pass (settles : feed.Settles settle) (tally : Tally State Item) :
    feed.paged limit budget tally =
      onePass settle limit budget (feed.select tally.state) tally := by
  induction size : budget - tally.scanned using Nat.strongRecOn generalizing tally with
  | ind bound ih =>
      rw [Feed.paged]
      split
      · rename_i goes
        have on := goes
        simp only [Tally.goesOn, Bool.and_eq_true, decide_eq_true_eq] at on
        split
        · rename_i empty
          have none : feed.select tally.state = [] := by
            rcases List.take_eq_nil_iff.1 empty with zero | none
            · omega
            · exact none
          rw [none]
          rfl
        · rename_i first rest page
          obtain ⟨back, split⟩ : ∃ back, feed.select tally.state = first :: rest ++ back := by
            rw [← page]
            exact ⟨_, (List.take_append_drop _ _).symm⟩
          have short := List.length_take_le
            (min (limit - tally.dispatched) (budget - tally.scanned)) (feed.select tally.state)
          rw [page] at short
          obtain ⟨left, progress, passed⟩ := page_settled limit budget settles
            (first :: rest) back tally split (by omega) (by omega)
          have more := feed.page_scanned (first :: rest) tally
          simp only [List.length_cons] at more
          have next := ih _ (by omega) (feed.page (first :: rest) tally).1 rfl
          dsimp only
          rw [if_pos (progress (by simp)), next, left, split, passed]
      · rename_i stopped
        exact (one_pass_stopped (by simpa using stopped)).symm

/-- A pass examines the first items, until a bound is reached or there are no more. -/
theorem one_pass_examined (settle : State → Item → State × Bool) (limit budget : Nat)
    (items : List Item) (tally : Tally State Item) :
    ∃ count, (onePass settle limit budget items tally).examined =
        tally.examined ++ items.take count ∧
      ((onePass settle limit budget items tally).goesOn limit budget = true →
        items.length ≤ count) := by
  induction items generalizing tally with
  | nil => exact ⟨0, by simp [onePass], fun _ => Nat.le_refl 0⟩
  | cons item rest ih =>
      by_cases goes : tally.goesOn limit budget = true
      · obtain ⟨count, examined, drained⟩ := ih
          (tally.add item (settle tally.state item).1 (settle tally.state item).2)
        simp only [onePass, goes, if_true]
        refine ⟨count + 1, ?_, fun on => Nat.succ_le_succ (drained on)⟩
        rw [examined]
        simp [Tally.add]
      · have stopped := Bool.eq_false_iff.2 goes
        rw [one_pass_stopped stopped]
        exact ⟨0, by simp, fun on => absurd on goes⟩

end Passes

end Paging
