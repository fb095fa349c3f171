import LinkAlive.Foundation.Paging

/-!
# Lists that are read page by page

A reader follows a cursor through an ordered list that changes between two pages. Each page
is cut from rows that the list shows behind the cursor; the next cursor is the last item of a
page that was cut. Every page lies behind the pages before it, so no item is read twice, and
an item that is listed all the time is read unless some page leaves it out of its rows.
-/

namespace Keyset

set_option autoImplicit false

open Paging

variable {Item Rank : Type} [LinearOrder Rank] {rank : Item → Rank}

/-- One page: what is listed when it is read, and the rows that it is cut from. -/
structure Turn (Item : Type) where
  cursor : Option Item
  listing : List Item
  rows : List Item

def Turn.items (limit : Nat) (turn : Turn Item) : List Item := turn.rows.take limit

def Ahead (rank : Item → Rank) (cursor : Option Item) (item : Item) : Prop :=
  ∀ last, cursor = some last → rank last < rank item

/-- The rows are the end of the ordered listing, all of it or a part behind the cursor. -/
structure Turn.Sound (rank : Item → Rank) (turn : Turn Item) : Prop where
  ranked : Ranked rank turn.listing
  ends : turn.rows <:+ turn.listing
  whole : turn.cursor = none → turn.rows = turn.listing
  ahead : ∀ item ∈ turn.rows, Ahead rank turn.cursor item

/-- The turns of a reader from a cursor until no cursor is left. -/
inductive Following (limit : Nat) : Option Item → List (Turn Item) → Prop
  | last {turn : Turn Item} : turn.rows.length ≤ limit → Following limit turn.cursor [turn]
  | more {turn : Turn Item} {next : Item} {turns : List (Turn Item)} :
      limit < turn.rows.length → (turn.items limit).getLast? = some next →
        Following limit (some next) turns → Following limit turn.cursor (turn :: turns)

def Turn.omits (rank : Item → Rank) (turn : Turn Item) (item : Item) : Prop :=
  item ∈ turn.listing ∧ Ahead rank turn.cursor item ∧ item ∉ turn.rows

namespace Turn.Sound

variable {turn : Turn Item} (sound : turn.Sound rank)

include sound

theorem rows_ranked : Ranked rank turn.rows := List.Pairwise.sublist sound.ends.sublist sound.ranked

theorem items_ranked (limit : Nat) : Ranked rank (turn.items limit) :=
  List.Pairwise.sublist (List.take_sublist limit turn.rows) sound.rows_ranked

/-- What the page leaves out lies before everything that it shows. -/
theorem omitted_before {item other : Item} (omits : turn.omits rank item)
    (shown : other ∈ turn.rows) : rank item < rank other := by
  obtain ⟨skipped, split⟩ := sound.ends
  have listed : item ∈ skipped := by
    have among := omits.1
    rw [← split, List.mem_append] at among
    exact among.resolve_right omits.2.2
  have ranked := sound.ranked
  rw [← split] at ranked
  exact (List.pairwise_append.1 ranked).2.2 item listed other shown

end Turn.Sound

theorem le_last {limit : Nat} {turn : Turn Item} (sound : turn.Sound rank) {next item : Item}
    (last : (turn.items limit).getLast? = some next) (member : item ∈ turn.items limit) :
    rank item ≤ rank next := by
  obtain ⟨earlier, split⟩ := List.getLast?_eq_some_iff.1 last
  have ranked := sound.items_ranked limit
  rw [split] at member ranked
  rcases List.mem_append.1 member with before | final
  · exact le_of_lt ((List.pairwise_append.1 ranked).2.2 item before next List.mem_cons_self)
  · rw [List.mem_singleton.1 final]

variable {limit : Nat} {cursor : Option Item} {turns : List (Turn Item)} {item : Item}

/-- Everything that the reader gets lies behind its cursor, in order. -/
theorem following_ranked (following : Following limit cursor turns)
    (sound : ∀ turn ∈ turns, turn.Sound rank) :
    Ranked rank (turns.flatMap (Turn.items limit)) ∧
      ∀ item ∈ turns.flatMap (Turn.items limit), Ahead rank cursor item := by
  induction following with
  | @last turn short =>
      have first := sound turn List.mem_cons_self
      rw [List.flatMap_cons, List.flatMap_nil, List.append_nil]
      exact ⟨first.items_ranked limit,
        fun item member => first.ahead item (List.mem_of_mem_take member)⟩
  | @more turn next turns long last following ih =>
      have first := sound turn List.mem_cons_self
      obtain ⟨ranked, ahead⟩ := ih fun other among => sound other (List.mem_cons_of_mem _ among)
      have nextRow : next ∈ turn.rows := List.mem_of_mem_take (List.mem_of_getLast? last)
      rw [List.flatMap_cons]
      constructor
      · refine List.pairwise_append.2 ⟨first.items_ranked limit, ranked, ?_⟩
        intro earlier member later among
        exact lt_of_le_of_lt (le_last first last member) (ahead later among next rfl)
      · intro item member
        rcases List.mem_append.1 member with here | later
        · exact first.ahead item (List.mem_of_mem_take here)
        · intro before same
          exact lt_trans (first.ahead next nextRow before same) (ahead item later next rfl)

theorem following_cursors {start : Item} (following : Following limit (some start) turns)
    (sound : ∀ turn ∈ turns, turn.Sound rank) :
    ∀ turn ∈ turns, ∀ last, turn.cursor = some last → rank start ≤ rank last := by
  generalize same : some start = cursor at following
  induction following generalizing start with
  | @last turn short =>
      intro other member last cursor
      rw [List.mem_singleton.1 member, ← same, Option.some.injEq] at cursor
      rw [cursor]
  | @more turn next turns long last following ih =>
      have first := sound turn List.mem_cons_self
      have nextRow : next ∈ turn.rows := List.mem_of_mem_take (List.mem_of_getLast? last)
      have forward : rank start < rank next := first.ahead next nextRow start same.symm
      intro other member final cursor
      rcases List.mem_cons.1 member with rfl | later
      · rw [← same, Option.some.injEq] at cursor
        rw [cursor]
      · have behind := ih (fun other among => sound other (List.mem_cons_of_mem _ among)) rfl
          other later final cursor
        exact le_trans (le_of_lt forward) behind

/-- An item that is listed all the time and that lies behind the cursor is read unless a page
omits it. -/
theorem mem_of_not_omitted (following : Following limit cursor turns)
    (sound : ∀ turn ∈ turns, turn.Sound rank) (steady : ∀ turn ∈ turns, item ∈ turn.listing)
    (ahead : Ahead rank cursor item) (kept : ∀ turn ∈ turns, ¬ turn.omits rank item) :
    item ∈ turns.flatMap (Turn.items limit) := by
  induction following with
  | @last turn short =>
      have shown : item ∈ turn.rows := by
        by_contra missing
        exact kept turn List.mem_cons_self ⟨steady turn List.mem_cons_self, ahead, missing⟩
      rw [List.flatMap_cons, List.flatMap_nil, List.append_nil, Turn.items,
        List.take_of_length_le short]
      exact shown
  | @more turn next turns long last following ih =>
      have shown : item ∈ turn.rows := by
        by_contra missing
        exact kept turn List.mem_cons_self ⟨steady turn List.mem_cons_self, ahead, missing⟩
      rw [List.flatMap_cons, List.mem_append]
      have split := shown
      rw [← List.take_append_drop limit turn.rows, List.mem_append] at split
      rcases split with here | behind
      · exact .inl here
      · refine .inr (ih (fun other among => sound other (List.mem_cons_of_mem _ among))
          (fun other among => steady other (List.mem_cons_of_mem _ among)) ?_
          (fun other among => kept other (List.mem_cons_of_mem _ among)))
        have ranked := (sound turn List.mem_cons_self).rows_ranked
        rw [← List.take_append_drop limit turn.rows] at ranked
        intro final same
        cases same
        exact (List.pairwise_append.1 ranked).2.2 next (List.mem_of_getLast? last) item behind

/-- What one page omits no later page shows. -/
theorem not_omitted_of_mem (following : Following limit cursor turns)
    (sound : ∀ turn ∈ turns, turn.Sound rank)
    (member : item ∈ turns.flatMap (Turn.items limit)) :
    ∀ turn ∈ turns, ¬ turn.omits rank item := by
  induction following with
  | @last turn short =>
      intro other among omits
      rw [List.mem_singleton.1 among] at omits
      rw [List.flatMap_cons, List.flatMap_nil, List.append_nil] at member
      exact omits.2.2 (List.mem_of_mem_take member)
  | @more turn next turns long last following ih =>
      have first := sound turn List.mem_cons_self
      have others : ∀ other ∈ turns, other.Sound rank :=
        fun other among => sound other (List.mem_cons_of_mem _ among)
      have nextRow : next ∈ turn.rows := List.mem_of_mem_take (List.mem_of_getLast? last)
      rw [List.flatMap_cons, List.mem_append] at member
      intro other among omits
      rcases List.mem_cons.1 among with rfl | later <;> rcases member with here | behind
      · exact omits.2.2 (List.mem_of_mem_take here)
      · -- the page is cut behind the omitted item, and the later ones behind the page
        have after := (following_ranked following others).2 item behind next rfl
        exact lt_irrefl _ (lt_trans after (first.omitted_before omits nextRow))
      · -- the cursors of the later pages lie at or behind the item
        cases found : other.cursor with
        | none =>
            have whole := (others other later).whole found
            exact omits.2.2 (whole ▸ omits.1)
        | some final =>
            have forward := following_cursors following others other later final found
            have behind := le_trans (le_last first last here) forward
            exact absurd (omits.2.1 final found) (not_lt_of_ge behind)
      · exact ih others behind other later omits

/-- An item that is listed all the time is read exactly once unless some page omits it, and then
never. -/
theorem read_once_iff [DecidableEq Item] (following : Following limit none turns)
    (sound : ∀ turn ∈ turns, turn.Sound rank) (steady : ∀ turn ∈ turns, item ∈ turn.listing) :
    (turns.flatMap (Turn.items limit)).count item = 1 ↔
      ∀ turn ∈ turns, ¬ turn.omits rank item := by
  have distinct := (following_ranked following sound).1.nodup
  have once : (turns.flatMap (Turn.items limit)).count item = 1 ↔
      item ∈ turns.flatMap (Turn.items limit) := by
    rw [List.Nodup.count distinct]
    split
    · exact iff_of_true rfl ‹_›
    · exact iff_of_false Nat.zero_ne_one ‹_›
  rw [once]
  constructor
  · exact not_omitted_of_mem following sound
  · exact mem_of_not_omitted following sound steady (fun _ impossible => nomatch impossible)

def fromPlace (rank : Item → Rank) (listing : List Item) (last : Item) : List Item :=
  listing.filter fun item => decide (rank last ≤ rank item)

def skipRows (rank : Item → Rank) (cursor : Option Item) (listing : List Item) : List Item :=
  match cursor with
  | none => listing
  | some last => (fromPlace rank listing last).drop 1

def indexRows [DecidableEq Item] (cursor : Option Item) (listing : List Item) : List Item :=
  match cursor with
  | none => listing
  | some last => if last ∈ listing then listing.drop (listing.idxOf last + 1) else []

section cursors

variable {listing : List Item} {last : Item}

theorem from_place_ends (ranked : Ranked rank listing) :
    fromPlace rank listing last <:+ listing := by
  induction listing with
  | nil => exact List.suffix_refl _
  | cons first rest ih =>
      obtain ⟨least, ranked⟩ := List.pairwise_cons.1 ranked
      unfold fromPlace
      by_cases behind : rank last ≤ rank first
      · have all : ∀ item ∈ first :: rest, decide (rank last ≤ rank item) = true := by
          intro item member
          rcases List.mem_cons.1 member with rfl | later
          · exact decide_eq_true behind
          · exact decide_eq_true (le_of_lt (lt_of_le_of_lt behind (least item later)))
        exact ⟨[], List.filter_eq_self.2 all⟩
      · rw [List.filter_cons_of_neg (by simpa using behind)]
        exact (ih ranked).trans (List.suffix_cons _ _)

/-- Behind the first row at a place everything lies strictly behind the place. -/
theorem behind_first (ranked : Ranked rank listing) {item : Item}
    (member : item ∈ (fromPlace rank listing last).drop 1) : rank last < rank item := by
  have part : Ranked rank (fromPlace rank listing last) :=
    List.Pairwise.sublist List.filter_sublist ranked
  cases shape : fromPlace rank listing last with
  | nil =>
      rw [shape] at member
      cases member
  | cons first rest =>
      rw [shape] at member part
      have among : first ∈ fromPlace rank listing last := by
        rw [shape]
        exact List.mem_cons_self
      have place : rank last ≤ rank first := of_decide_eq_true (List.mem_filter.1 among).2
      exact lt_of_le_of_lt place ((List.pairwise_cons.1 part).1 item member)

theorem from_place_head_iff (ranked : Ranked rank listing) (injective : Function.Injective rank)
    (absent : last ∉ listing) {item : Item} :
    (fromPlace rank listing last).head? = some item ↔
      item ∈ listing ∧ rank last < rank item ∧
        ∀ other ∈ listing, rank last < rank other → rank item ≤ rank other := by
  have part : Ranked rank (fromPlace rank listing last) :=
    List.Pairwise.sublist List.filter_sublist ranked
  have members : ∀ other, other ∈ fromPlace rank listing last ↔
      other ∈ listing ∧ rank last < rank other := by
    intro other
    rw [fromPlace, List.mem_filter, decide_eq_true_iff]
    refine and_congr_right fun listed => ⟨fun place => lt_of_le_of_ne place ?_, le_of_lt⟩
    intro ranks
    exact absent (injective ranks ▸ listed)
  constructor
  · intro head
    obtain ⟨rest, shape⟩ := List.head?_eq_some_iff.1 head
    obtain ⟨listed, behind⟩ := (members item).1 (List.mem_of_head? head)
    refine ⟨listed, behind, ?_⟩
    intro other among later
    have found := (members other).2 ⟨among, later⟩
    rw [shape] at found part
    rcases List.mem_cons.1 found with same | row
    · exact le_of_eq (congrArg rank same.symm)
    · exact le_of_lt ((List.pairwise_cons.1 part).1 other row)
  · rintro ⟨listed, behind, least⟩
    have found := (members item).2 ⟨listed, behind⟩
    cases shape : fromPlace rank listing last with
    | nil =>
        rw [shape] at found
        cases found
    | cons first rest =>
        obtain ⟨among, later⟩ := (members first).1 (by rw [shape]; exact List.mem_cons_self)
        rw [shape] at found part
        rcases List.mem_cons.1 found with same | row
        · rw [same, List.head?_cons]
        · have before := (List.pairwise_cons.1 part).1 item row
          exact absurd (least first among later) (not_le_of_gt before)

theorem skip_sound {cursor : Option Item} (ranked : Ranked rank listing) :
    (Turn.mk cursor listing (skipRows rank cursor listing)).Sound rank where
  ranked := ranked
  ends := by
    cases cursor with
    | none => exact List.suffix_refl _
    | some last => exact (List.drop_suffix _ _).trans (from_place_ends ranked)
  whole same := by
    subst same
    rfl
  ahead item member := by
    cases cursor with
    | none => exact fun _ impossible => nomatch impossible
    | some last =>
        intro final same
        cases same
        exact behind_first ranked member

theorem skip_omits_iff {cursor : Option Item} (ranked : Ranked rank listing)
    (injective : Function.Injective rank) {item : Item} :
    (Turn.mk cursor listing (skipRows rank cursor listing)).omits rank item ↔
      ∃ last, cursor = some last ∧ last ∉ listing ∧
        (fromPlace rank listing last).head? = some item := by
  constructor
  · rintro ⟨listed, ahead, omitted⟩
    cases cursor with
    | none => exact absurd listed omitted
    | some last =>
        have behind : rank last < rank item := ahead last rfl
        have among : item ∈ fromPlace rank listing last :=
          List.mem_filter.2 ⟨listed, decide_eq_true (le_of_lt behind)⟩
        cases shape : fromPlace rank listing last with
        | nil =>
            rw [shape] at among
            cases among
        | cons first rest =>
            have part : Ranked rank (first :: rest) :=
              shape ▸ List.Pairwise.sublist List.filter_sublist ranked
            simp only [skipRows, shape] at omitted
            rw [shape] at among
            have same : item = first :=
              (List.mem_cons.1 among).resolve_right omitted
            refine ⟨last, rfl, ?_, by rw [shape, same, List.head?_cons]⟩
            intro present
            have place : last ∈ first :: rest := by
              rw [← shape]
              exact List.mem_filter.2 ⟨present, decide_eq_true (le_refl _)⟩
            rcases List.mem_cons.1 place with here | later
            · exact lt_irrefl _ (here ▸ same ▸ behind)
            · have before := (List.pairwise_cons.1 part).1 last later
              exact lt_irrefl _ (lt_trans before (same ▸ behind))
  · rintro ⟨last, rfl, absent, head⟩
    have among : item ∈ fromPlace rank listing last := List.mem_of_head? head
    obtain ⟨listed, place⟩ := List.mem_filter.1 among
    have place : rank last ≤ rank item := of_decide_eq_true place
    refine ⟨listed, ?_, ?_⟩
    · intro final same
      cases same
      refine lt_of_le_of_ne place ?_
      intro ranks
      exact absent (injective ranks ▸ listed)
    · have part : Ranked rank (fromPlace rank listing last) :=
        List.Pairwise.sublist List.filter_sublist ranked
      obtain ⟨rest, shape⟩ := List.head?_eq_some_iff.1 head
      simp only [skipRows, shape, List.drop_one, List.tail_cons]
      rw [shape] at part
      intro again
      exact lt_irrefl _ ((List.pairwise_cons.1 part).1 item again)

theorem index_rows_split [DecidableEq Item] (present : last ∈ listing) :
    ∃ before, listing = before ++ last :: indexRows (some last) listing := by
  have bound : listing.idxOf last < listing.length := List.idxOf_lt_length_of_mem present
  refine ⟨listing.take (listing.idxOf last), ?_⟩
  have found : listing[listing.idxOf last] = last := List.getElem_idxOf bound
  have rows : indexRows (some last) listing = listing.drop (listing.idxOf last + 1) :=
    if_pos present
  rw [rows]
  calc listing = listing.take (listing.idxOf last) ++ listing.drop (listing.idxOf last) :=
        (List.take_append_drop _ _).symm
    _ = _ := by rw [List.drop_eq_getElem_cons bound, found]

theorem index_rows_absent [DecidableEq Item] (absent : last ∉ listing) :
    indexRows (some last) listing = [] := if_neg absent

theorem index_sound [DecidableEq Item] {cursor : Option Item} (ranked : Ranked rank listing) :
    (Turn.mk cursor listing (indexRows cursor listing)).Sound rank where
  ranked := ranked
  ends := by
    cases cursor with
    | none => exact List.suffix_refl _
    | some last =>
        by_cases present : last ∈ listing
        · obtain ⟨before, split⟩ := index_rows_split present
          exact ⟨before ++ [last], by simpa using split.symm⟩
        · change indexRows (some last) listing <:+ listing
          rw [index_rows_absent present]
          exact List.nil_suffix
  whole same := by
    subst same
    rfl
  ahead item member := by
    cases cursor with
    | none => exact fun _ impossible => nomatch impossible
    | some last =>
        intro final same
        cases same
        by_cases present : last ∈ listing
        · obtain ⟨before, split⟩ := index_rows_split present
          rw [split] at ranked
          exact (List.pairwise_cons.1 (List.pairwise_append.1 ranked).2.1).1 item member
        · have none : item ∈ indexRows (some last) listing := member
          rw [index_rows_absent present] at none
          cases none

theorem index_omits_iff [DecidableEq Item] {cursor : Option Item} (ranked : Ranked rank listing)
    {item : Item} : (Turn.mk cursor listing (indexRows cursor listing)).omits rank item ↔
      ∃ last, cursor = some last ∧ last ∉ listing ∧ item ∈ listing ∧ rank last < rank item := by
  constructor
  · rintro ⟨listed, ahead, omitted⟩
    cases cursor with
    | none => exact absurd listed omitted
    | some last =>
        have behind : rank last < rank item := ahead last rfl
        refine ⟨last, rfl, ?_, listed, behind⟩
        intro present
        obtain ⟨before, split⟩ := index_rows_split present
        have among : item ∈ listing := listed
        rw [split] at among ranked
        rcases List.mem_append.1 among with earlier | later
        · have less := (List.pairwise_append.1 ranked).2.2 item earlier last List.mem_cons_self
          exact lt_irrefl _ (lt_trans less behind)
        · rcases List.mem_cons.1 later with here | row
          · exact lt_irrefl _ (here ▸ behind)
          · exact omitted row
  · rintro ⟨last, rfl, absent, listed, behind⟩
    refine ⟨listed, ?_, ?_⟩
    · intro final same
      cases same
      exact behind
    · change item ∉ indexRows (some last) listing
      rw [index_rows_absent absent]
      exact List.not_mem_nil

end cursors

end Keyset
