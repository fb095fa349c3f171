import Mathlib.Data.Prod.Lex
import LinkAlive.Api.Staleness
import LinkAlive.Foundation.Keyset
import LinkAlive.Foundation.Texts
import LinkAlive.Ledger.MonitorRows
import LinkAlive.System.Script

/-!
# The list of monitors

`list` of `apps/api/src/monitors/monitors.service.ts` and a client that follows its cursors.
The database places a cursor by the two columns of the order, which are written once; the
STALE list looks its cursor up among the ids that are stale now.
-/

namespace LinkAlive.MonitorList

set_option autoImplicit false

open Relational Transition Paging

/-- A request for a page; `parseLimit` accepts positive limits only. -/
structure ListRequest where
  state : Option MonitorListState
  query : Option String
  limit : Nat
  positive : 0 < limit

/-- The rows that a page shows, before they become views. -/
structure ListPage where
  items : List (MonitorId × MonitorRow)
  nextCursor : Option MonitorId
deriving DecidableEq

/-- The tables when a call runs its first query and when it reads the records of STALE items.
No statement deletes a monitor. -/
structure PageRead where
  db : Database
  again : Database
  now : Time
  kept : ∀ id row, db.monitors.get id = some row → (again.monitors.get id).isSome = true

section service

variable (createdAt : MonitorId → Time) (contains : String → String → Bool)

/-- `ORDER BY created_at DESC, id DESC` -/
def listRank (id : MonitorId) : (Time ×ₗ MonitorId)ᵒᵈ := OrderDual.toDual (toLex (createdAt id, id))

/-- The search text, if it is not blank; `contains` is the comparison of the collation. -/
def ListRequest.finds (request : ListRequest) (monitor : MonitorRow) : Bool :=
  match request.query.map trimText with
  | none => true
  | some text => text = "" || contains monitor.name text || contains monitor.displayUrl text

/-- `buildMonitorListWhere` with the search text. -/
def ListRequest.accepts (request : ListRequest) (now : Time) (monitor : MonitorRow) : Bool :=
  buildMonitorListWhere request.state now monitor && request.finds contains monitor

/-- `prisma.monitor.findMany` with the order of the list. -/
def findMonitors (db : Database) (guard : MonitorRow → Bool) : List (MonitorId × MonitorRow) :=
  rankSort (fun entry => listRank createdAt entry.1) (db.monitors.select fun _ row => guard row)

/-- One page of rows, read with one row more than it shows, and whether there is that row. -/
def cutPage {Row : Type} (limit : Nat) (rows : List Row) : List Row × Bool :=
  let records := rows.take (limit + 1)
  let hasMore := decide (limit < records.length)
  (if hasMore then records.take limit else records, hasMore)

def ListPage.of (cut : List (MonitorId × MonitorRow) × Bool) : ListPage where
  items := cut.1
  nextCursor := if cut.2 then cut.1.getLast?.map Prod.fst else none

def staleCandidateIds (request : ListRequest) (read : PageRead) :
    Except RangeError (List MonitorId) :=
  exactlyStale read.now (findMonitors createdAt read.db (request.accepts contains read.now))

def staleList (request : ListRequest) (cursor : Option MonitorId) (read : PageRead) :
    Except RangeError ListPage := do
  let staleIds ← staleCandidateIds createdAt contains request read
  if cursor.any fun last => last ∉ staleIds then return ⟨[], none⟩
  let rest := match cursor with
    | none => staleIds
    | some last => staleIds.drop (staleIds.idxOf last + 1)
  let cut := cutPage request.limit rest
  let items := cut.1.filterMap fun id => (read.again.monitors.get id).map fun row => (id, row)
  return .of (items, cut.2)

/-- The rows that the query returns without `take`: `skip: 1` drops the first row at or after
the place of the cursor. -/
def placedRows (request : ListRequest) (cursor : Option MonitorId) (read : PageRead) :
    List (MonitorId × MonitorRow) :=
  let rows := findMonitors createdAt read.db (request.accepts contains read.now)
  match cursor with
  | none => rows
  | some last =>
      (rows.filter fun entry => listRank createdAt last ≤ listRank createdAt entry.1).drop 1

def list (request : ListRequest) (cursor : Option MonitorId) (read : PageRead) :
    Except RangeError ListPage :=
  if request.state = some .stale then staleList createdAt contains request cursor read
  else .ok (.of (cutPage request.limit (placedRows createdAt contains request cursor read)))

structure ListTurn where
  cursor : Option MonitorId
  read : PageRead
  page : ListPage

/-- The calls of a client that follows `nextCursor` until there is none. -/
inductive Followed (request : ListRequest) : Option MonitorId → List ListTurn → Prop
  | last {turn : ListTurn} :
      list createdAt contains request turn.cursor turn.read = .ok turn.page →
        turn.page.nextCursor = none → Followed request turn.cursor [turn]
  | more {turn : ListTurn} {next : MonitorId} {turns : List ListTurn} :
      list createdAt contains request turn.cursor turn.read = .ok turn.page →
        turn.page.nextCursor = some next → Followed request (some next) turns →
          Followed request turn.cursor (turn :: turns)

def ListRequest.Matches (request : ListRequest) (read : PageRead) (id : MonitorId) : Prop :=
  ∃ row, read.db.monitors.get id = some row ∧ request.accepts contains read.now row = true ∧
    (request.state = some .stale →
      isMonitorStale row.nextCheckAt row.config.intervalSec read.now = .ok true)

def Behind (last id : MonitorId) : Prop := listRank createdAt last < listRank createdAt id

/-- The cursor's monitor does not match any more. Then a STALE page comes out empty, and
another page skips the first matching monitor behind the cursor. -/
def ListTurn.loses (request : ListRequest) (turn : ListTurn) (id : MonitorId) : Prop :=
  ∃ last, turn.cursor = some last ∧ ¬ request.Matches contains turn.read last ∧
    Behind createdAt last id ∧
    (request.state ≠ some .stale → ∀ other, request.Matches contains turn.read other →
      Behind createdAt last other → listRank createdAt id ≤ listRank createdAt other)

end service

theorem cut_page {Row : Type} (limit : Nat) (rows : List Row) :
    cutPage limit rows = (rows.take limit, decide (limit < rows.length)) := by
  have more : limit < (rows.take (limit + 1)).length ↔ limit < rows.length := by
    rw [List.length_take]
    omega
  by_cases long : limit < rows.length
  · simp only [cutPage, more, long, decide_true, if_true, List.take_take]
    rw [Nat.min_eq_left (Nat.le_succ limit)]
  · have short : rows.length ≤ limit := Nat.le_of_not_lt long
    simp only [cutPage, more, long, decide_false, Bool.false_eq_true, if_false]
    rw [List.take_of_length_le (Nat.le_succ_of_le short), List.take_of_length_le short]

section pages

variable {createdAt : MonitorId → Time} {contains : String → String → Bool}

theorem list_rank_injective : Function.Injective (listRank createdAt) := by
  intro first second same
  exact (Prod.mk.inj (toLex_inj.1 (OrderDual.toDual_inj.1 same))).2

theorem mem_find_monitors {db : Database} {guard : MonitorRow → Bool} {id : MonitorId}
    {row : MonitorRow} : (id, row) ∈ findMonitors createdAt db guard ↔
      db.monitors.get id = some row ∧ guard row = true := by
  rw [findMonitors, mem_rank_sort, Table.mem_select]

theorem find_monitors_sorted (db : Database) (guard : MonitorRow → Bool) :
    Ranked (fun entry => listRank createdAt entry.1) (findMonitors createdAt db guard) := by
  apply rank_sort_ranked
  · exact (Table.select_keys_nodup _ _).of_map
  · intro first member second among same
    have keys := list_rank_injective same
    rw [Table.mem_select] at member among
    have rows := member.1
    rw [keys, among.1, Option.some.injEq] at rows
    exact Prod.ext keys rows.symm

theorem find_monitors_ranked (db : Database) (guard : MonitorRow → Bool) :
    Ranked (listRank createdAt) ((findMonitors createdAt db guard).map Prod.fst) :=
  List.pairwise_map.2 (find_monitors_sorted db guard)

theorem exactly_stale_ok {now : Time} {entries : List (MonitorId × MonitorRow)}
    {ids : List MonitorId} (checked : exactlyStale now entries = .ok ids) :
    ids.Sublist (entries.map Prod.fst) ∧ ∀ id, id ∈ ids ↔ ∃ row, (id, row) ∈ entries ∧
      isMonitorStale row.nextCheckAt row.config.intervalSec now = .ok true := by
  induction entries generalizing ids with
  | nil =>
      cases checked
      exact ⟨List.Sublist.refl _, by simp⟩
  | cons entry rest ih =>
      cases decided : isMonitorStale entry.2.nextCheckAt entry.2.config.intervalSec now with
      | error reason => simp [exactlyStale, decided, bind, Except.bind] at checked
      | ok stale =>
          cases checkedRest : exactlyStale now rest with
          | error reason =>
              simp [exactlyStale, decided, checkedRest, bind, Except.bind] at checked
          | ok others =>
              obtain ⟨part, members⟩ := ih checkedRest
              simp only [exactlyStale, decided, checkedRest, bind, Except.bind, pure, Except.pure,
                Except.ok.injEq] at checked
              subst checked
              constructor
              · split
                · exact part.cons_cons _
                · exact part.cons _
              · intro id
                have here : id ∈ (if stale then entry.1 :: others else others) ↔
                    (stale = true ∧ id = entry.1) ∨ id ∈ others := by
                  cases stale <;> simp
                rw [here, members]
                constructor
                · rintro (⟨rfl, rfl⟩ | ⟨row, member, found⟩)
                  · exact ⟨entry.2, List.mem_cons_self, decided⟩
                  · exact ⟨row, List.mem_cons_of_mem _ member, found⟩
                · rintro ⟨row, member, found⟩
                  rcases List.mem_cons.1 member with same | later
                  · rw [← same, found, Except.ok.injEq] at decided
                    exact .inl ⟨decided.symm, congrArg Prod.fst same⟩
                  · exact .inr ⟨row, later, found⟩

section turns

variable (createdAt) (contains) (request : ListRequest)

def listedIds (read : PageRead) : List MonitorId :=
  if request.state = some .stale then
    (staleCandidateIds createdAt contains request read).toOption.getD []
  else (findMonitors createdAt read.db (request.accepts contains read.now)).map Prod.fst

/-- A call as a page that is cut from the rows behind its cursor. -/
def ListTurn.keyset (turn : ListTurn) : Keyset.Turn MonitorId where
  cursor := turn.cursor
  listing := listedIds createdAt contains request turn.read
  rows :=
    if request.state = some .stale then
      Keyset.indexRows turn.cursor (listedIds createdAt contains request turn.read)
    else
      Keyset.skipRows (listRank createdAt) turn.cursor
        (listedIds createdAt contains request turn.read)

variable {createdAt} {contains} {request}

theorem listed_ranked (read : PageRead) :
    Ranked (listRank createdAt) (listedIds createdAt contains request read) := by
  unfold listedIds
  split
  · cases checked : staleCandidateIds createdAt contains request read with
    | error reason => exact List.Pairwise.nil
    | ok ids =>
        exact List.Pairwise.sublist (exactly_stale_ok checked).1 (find_monitors_ranked _ _)
  · exact find_monitors_ranked _ _

theorem keyset_sound (turn : ListTurn) :
    (turn.keyset createdAt contains request).Sound (listRank createdAt) := by
  by_cases stale : request.state = some .stale
  · have rows : turn.keyset createdAt contains request = ⟨turn.cursor,
        listedIds createdAt contains request turn.read,
        Keyset.indexRows turn.cursor (listedIds createdAt contains request turn.read)⟩ := by
      rw [ListTurn.keyset, if_pos stale]
    rw [rows]
    exact Keyset.index_sound (listed_ranked turn.read)
  · have rows : turn.keyset createdAt contains request = ⟨turn.cursor,
        listedIds createdAt contains request turn.read,
        Keyset.skipRows (listRank createdAt) turn.cursor
          (listedIds createdAt contains request turn.read)⟩ := by
      rw [ListTurn.keyset, if_neg stale]
    rw [rows]
    exact Keyset.skip_sound (listed_ranked turn.read)

def ListPage.Cut (page : ListPage) (limit : Nat) (rows : List MonitorId) : Prop :=
  page.items.map Prod.fst = rows.take limit ∧
    page.nextCursor = if limit < rows.length then (rows.take limit).getLast? else none

theorem cut_of_rows {limit : Nat} {rows : List (MonitorId × MonitorRow)} :
    (ListPage.of (cutPage limit rows)).Cut limit (rows.map Prod.fst) := by
  rw [cut_page]
  constructor
  · exact List.map_take
  · simp only [ListPage.of, decide_eq_true_eq, List.length_map, ← List.map_take,
      List.getLast?_map]

theorem records_of_ids {ids : List MonitorId} {monitors : Table MonitorId MonitorRow}
    (stored : ∀ id ∈ ids, (monitors.get id).isSome = true) :
    (ids.filterMap fun id => (monitors.get id).map fun row => (id, row)).map Prod.fst = ids := by
  induction ids with
  | nil => rfl
  | cons id ids ih =>
      obtain ⟨row, found⟩ := Option.isSome_iff_exists.1 (stored id List.mem_cons_self)
      rw [List.filterMap_cons_some (by rw [found, Option.map_some]), List.map_cons,
        ih fun other member => stored other (List.mem_cons_of_mem _ member)]

theorem stale_list_cut {cursor : Option MonitorId} {read : PageRead} {page : ListPage}
    (answered : staleList createdAt contains request cursor read = .ok page) :
    ∃ ids, staleCandidateIds createdAt contains request read = .ok ids ∧
      page.Cut request.limit (Keyset.indexRows cursor ids) := by
  unfold staleList at answered
  cases checked : staleCandidateIds createdAt contains request read with
  | error reason =>
      rw [checked] at answered
      cases answered
  | ok ids =>
      refine ⟨ids, rfl, ?_⟩
      have among : ∀ id ∈ ids, (read.again.monitors.get id).isSome = true := by
        intro id member
        obtain ⟨row, listed, -⟩ := ((exactly_stale_ok checked).2 id).1 member
        exact read.kept id row (mem_find_monitors.1 listed).1
      -- both branches cut the rows behind the index
      have page_of : ∀ rest : List MonitorId, (∀ id ∈ rest, id ∈ ids) →
          (ListPage.of (((cutPage request.limit rest).1.filterMap fun id =>
            (read.again.monitors.get id).map fun row => (id, row)),
              (cutPage request.limit rest).2)).Cut request.limit rest := by
        intro rest part
        rw [cut_page]
        have records : ((rest.take request.limit).filterMap fun id =>
            (read.again.monitors.get id).map fun row => (id, row)).map Prod.fst =
              rest.take request.limit :=
          records_of_ids fun id member => among id (part id (List.mem_of_mem_take member))
        refine ⟨records, ?_⟩
        simp only [ListPage.of, decide_eq_true_eq, ← List.getLast?_map, records]
      cases cursor with
      | none =>
          simp only [checked, bind, Except.bind, Option.any_none, Bool.false_eq_true, if_false,
            pure, Except.pure, Except.ok.injEq] at answered
          rw [← answered]
          exact page_of ids fun id member => member
      | some last =>
          by_cases present : last ∈ ids
          · simp only [checked, bind, Except.bind, Option.any_some, present, not_true,
              decide_false, Bool.false_eq_true, if_false, pure, Except.pure,
              Except.ok.injEq] at answered
            have rows : Keyset.indexRows (some last) ids = ids.drop (ids.idxOf last + 1) :=
              if_pos present
            rw [rows, ← answered]
            exact page_of _ fun id member => List.mem_of_mem_drop member
          · simp only [checked, bind, Except.bind, Option.any_some, present, not_false_eq_true,
              decide_true, if_true, pure, Except.pure, Except.ok.injEq] at answered
            rw [Keyset.index_rows_absent present, ← answered]
            exact ⟨List.take_nil.symm, rfl⟩

theorem placed_rows_ids (cursor : Option MonitorId) (read : PageRead)
    (live : request.state ≠ some .stale) :
    (placedRows createdAt contains request cursor read).map Prod.fst =
      Keyset.skipRows (listRank createdAt) cursor (listedIds createdAt contains request read) := by
  rw [listedIds, if_neg live]
  cases cursor with
  | none => rfl
  | some last =>
      simp only [placedRows, Keyset.skipRows, Keyset.fromPlace, List.map_drop, List.filter_map]
      rfl

theorem list_cut {turn : ListTurn}
    (answered : list createdAt contains request turn.cursor turn.read = .ok turn.page) :
    turn.page.Cut request.limit (turn.keyset createdAt contains request).rows := by
  unfold list at answered
  by_cases stale : request.state = some .stale
  · rw [if_pos stale] at answered
    obtain ⟨ids, checked, cut⟩ := stale_list_cut answered
    rw [ListTurn.keyset, listedIds, if_pos stale, if_pos stale, checked]
    exact cut
  · rw [if_neg stale, Except.ok.injEq] at answered
    rw [ListTurn.keyset, if_neg stale, ← answered, ← placed_rows_ids turn.cursor turn.read stale]
    exact cut_of_rows

/-- A client's calls are the turns of a reader. -/
theorem followed_following {cursor : Option MonitorId} {turns : List ListTurn}
    (followed : Followed createdAt contains request cursor turns) :
    Keyset.Following request.limit cursor
        (turns.map (ListTurn.keyset createdAt contains request)) ∧
      turns.flatMap (fun turn => turn.page.items.map Prod.fst) =
        (turns.map (ListTurn.keyset createdAt contains request)).flatMap
          (Keyset.Turn.items request.limit) := by
  induction followed with
  | @last turn answered final =>
      obtain ⟨items, next⟩ := list_cut answered
      have short : (turn.keyset createdAt contains request).rows.length ≤ request.limit := by
        by_contra long
        have some := Nat.lt_of_not_le long
        rw [final, if_pos some, eq_comm, List.getLast?_eq_none_iff, List.take_eq_nil_iff] at next
        rcases next with none | empty
        · exact absurd none (Nat.ne_of_gt request.positive)
        · rw [empty] at some
          exact Nat.not_lt_zero _ some
      refine ⟨.last short, ?_⟩
      simp only [List.flatMap_cons, List.flatMap_nil, List.map_cons, List.map_nil, items,
        Keyset.Turn.items]
  | @more turn next turns answered more followed ih =>
      obtain ⟨items, cursor⟩ := list_cut answered
      rw [more] at cursor
      have long : request.limit < (turn.keyset createdAt contains request).rows.length := by
        by_contra short
        rw [if_neg short] at cursor
        cases cursor
      rw [if_pos long] at cursor
      refine ⟨.more long cursor.symm ih.1, ?_⟩
      simp only [List.flatMap_cons, List.map_cons, items, ih.2, Keyset.Turn.items]

theorem mem_listed {read : PageRead} {id : MonitorId}
    (checked : request.state = some .stale →
      ∃ ids, staleCandidateIds createdAt contains request read = .ok ids) :
    id ∈ listedIds createdAt contains request read ↔ request.Matches contains read id := by
  unfold listedIds ListRequest.Matches
  by_cases stale : request.state = some .stale
  · obtain ⟨ids, passed⟩ := checked stale
    rw [if_pos stale, passed]
    refine ((exactly_stale_ok passed).2 id).trans (exists_congr fun row => ?_)
    rw [mem_find_monitors, and_assoc]
    simp only [stale, true_implies]
  · rw [if_neg stale, List.mem_map]
    constructor
    · rintro ⟨entry, member, rfl⟩
      obtain ⟨stored, accepted⟩ := mem_find_monitors.1 member
      exact ⟨entry.2, stored, accepted, fun same => absurd same stale⟩
    · rintro ⟨row, stored, accepted, -⟩
      exact ⟨(id, row), mem_find_monitors.2 ⟨stored, accepted⟩, rfl⟩

theorem answered_checked {cursor : Option MonitorId} {read : PageRead} {page : ListPage}
    (answered : list createdAt contains request cursor read = .ok page)
    (stale : request.state = some .stale) :
    ∃ ids, staleCandidateIds createdAt contains request read = .ok ids := by
  rw [list, if_pos stale] at answered
  obtain ⟨ids, checked, -⟩ := stale_list_cut answered
  exact ⟨ids, checked⟩

theorem loses_iff {turn : ListTurn}
    (answered : list createdAt contains request turn.cursor turn.read = .ok turn.page)
    {id : MonitorId} (listed : request.Matches contains turn.read id) :
    turn.loses createdAt contains request id ↔
      (turn.keyset createdAt contains request).omits (listRank createdAt) id := by
  have members : ∀ other, other ∈ listedIds createdAt contains request turn.read ↔
      request.Matches contains turn.read other :=
    fun other => mem_listed (answered_checked answered)
  have ranked : Ranked (listRank createdAt) (listedIds createdAt contains request turn.read) :=
    listed_ranked turn.read
  by_cases stale : request.state = some .stale
  · rw [ListTurn.keyset, if_pos stale, Keyset.index_omits_iff ranked]
    refine exists_congr fun last => and_congr_right fun _ => ?_
    rw [members, members]
    constructor
    · intro lost
      exact ⟨lost.1, listed, lost.2.1⟩
    · intro omitted
      exact ⟨omitted.1, omitted.2.2, fun live => absurd stale live⟩
  · rw [ListTurn.keyset, if_neg stale, Keyset.skip_omits_iff ranked list_rank_injective]
    refine exists_congr fun last => and_congr_right fun _ => ?_
    rw [members]
    refine and_congr_right fun absent => ?_
    rw [Keyset.from_place_head_iff ranked list_rank_injective (fun found =>
      absent ((members last).1 found)), members]
    constructor
    · intro lost
      exact ⟨listed, lost.1, fun other among => lost.2 stale other ((members other).1 among)⟩
    · intro head
      exact ⟨head.2.1, fun _ other among => head.2.2 other ((members other).2 among)⟩

end turns

end pages

/-- Every monitor that matches at every call is returned exactly once. -/
def LosesNothing (contains : String → String → Bool) (request : ListRequest)
    (turns : List ListTurn) : Prop :=
  ∀ id, (∀ turn ∈ turns, request.Matches contains turn.read id) →
    (turns.flatMap fun turn => turn.page.items.map Prod.fst).count id = 1

theorem followed_answered {createdAt : MonitorId → Time} {contains : String → String → Bool}
    {request : ListRequest} {cursor : Option MonitorId} {turns : List ListTurn}
    (followed : Followed createdAt contains request cursor turns) :
    ∀ turn ∈ turns, list createdAt contains request turn.cursor turn.read = .ok turn.page := by
  induction followed with
  | last answered _ =>
      intro other member
      rw [List.mem_singleton.1 member]
      exact answered
  | more answered _ _ ih =>
      intro other member
      rcases List.mem_cons.1 member with rfl | later
      · exact answered
      · exact ih other later

/-- A followed list loses nothing exactly when no call loses a monitor that matches at every
call. -/
theorem list_loses_nothing_iff (createdAt : MonitorId → Time) (contains : String → String → Bool)
    (request : ListRequest) {turns : List ListTurn}
    (followed : Followed createdAt contains request none turns) :
    LosesNothing contains request turns ↔
      ∀ turn ∈ turns, ∀ id, (∀ other ∈ turns, request.Matches contains other.read id) →
        ¬ turn.loses createdAt contains request id := by
  have answered := followed_answered followed
  obtain ⟨following, items⟩ := followed_following followed
  have sound : ∀ turn ∈ turns.map (ListTurn.keyset createdAt contains request),
      turn.Sound (listRank createdAt) := by
    intro turn member
    obtain ⟨call, -, rfl⟩ := List.mem_map.1 member
    exact keyset_sound call
  have once : ∀ id, (∀ turn ∈ turns, request.Matches contains turn.read id) →
      ((turns.flatMap fun turn => turn.page.items.map Prod.fst).count id = 1 ↔
        ∀ turn ∈ turns, ¬ turn.loses createdAt contains request id) := by
    intro id steady
    rw [items, Keyset.read_once_iff following sound]
    · simp only [List.forall_mem_map]
      refine forall₂_congr fun turn member => not_congr ?_
      exact (loses_iff (answered turn member) (steady turn member)).symm
    · intro turn member
      obtain ⟨call, among, rfl⟩ := List.mem_map.1 member
      exact (mem_listed (answered_checked (answered call among))).2 (steady call among)
  constructor
  · intro complete turn member id steady
    exact (once id steady).1 (complete id steady) turn member
  · intro kept id steady
    exact (once id steady).2 fun turn member => kept turn member id steady

theorem run_monitor_stays {s after : System} {visited : List (System × Action)}
    (run : Run step s visited after) {id : MonitorId} {row : MonitorRow}
    (stored : s.db.monitors.get id = some row) : (after.db.monitors.get id).isSome = true := by
  have present : (s.db.monitors.get id).isSome = true := by rw [stored, Option.isSome_some]
  refine run.preserves (fun _ _ => True)
    (fun state => (state.db.monitors.get id).isSome = true) present ?_ (fun _ _ _ => trivial)
  intro state action next found _ taken
  obtain ⟨row, stored⟩ := Option.isSome_iff_exists.1 found
  obtain ⟨later, kept⟩ := step_monitor_stays (step_cases taken) stored
  rw [kept, Option.isSome_some]

/-- What a call reads while the system takes some steps between its two queries. -/
def PageRead.ofRun {s after : System} {visited : List (System × Action)}
    (run : Run step s visited after) (now : Time) : PageRead where
  db := s.db
  again := after.db
  now := now
  kept _ _ stored := run_monitor_stays run stored

/-- Rows that were inserted in the order of their creation are listed the other way round. -/
theorem find_monitors_reverse {createdAt : MonitorId → Time} {db : Database}
    {guard : MonitorRow → Bool}
    (ordered : Ranked (fun entry => listRank createdAt entry.1)
      (db.monitors.select fun _ row => guard row).reverse) :
    findMonitors createdAt db guard = (db.monitors.select fun _ row => guard row).reverse := by
  refine (find_monitors_sorted db guard).ext ordered ?_
  exact fun entry => mem_rank_sort.trans List.mem_reverse.symm

namespace Sample

def added : List Action :=
  [.beginMonitor 0 1 (.create (Script.monitorInput [])) 0 0, .commit 0,
    .beginMonitor 0 2 (.create (Script.monitorInput [])) 0 0, .commit 0]

def removed : List Action := added ++ [.beginMonitor 0 2 .remove 10 10, .commit 0]

def systemAfter (actions : List Action) : System :=
  ((replay step System.initial actions).map Prod.snd).getD .initial

/-- A call during which nothing happens. -/
def still (actions : List Action) : PageRead :=
  .ofRun (.start : Run step (systemAfter actions) [] (systemAfter actions)) 20

def request : ListRequest := ⟨none, none, 1, Nat.one_pos⟩

def createdAt (id : MonitorId) : Time := id

def contains (_ _ : String) : Bool := true

def rows (actions : List Action) : List (MonitorId × MonitorRow) :=
  ((systemAfter actions).db.monitors.select fun _ row => request.accepts contains 20 row).reverse

def shown (actions : List Action) : Option MonitorId → List (MonitorId × MonitorRow)
  | none => rows actions
  | some last =>
      ((rows actions).filter fun entry =>
        listRank createdAt last ≤ listRank createdAt entry.1).drop 1

def turn (actions : List Action) (cursor : Option MonitorId) : ListTurn :=
  ⟨cursor, still actions, .of (cutPage 1 (shown actions cursor))⟩

theorem turn_answered {actions : List Action} (cursor : Option MonitorId)
    (ordered : Ranked (fun entry => listRank createdAt entry.1) (rows actions)) :
    list createdAt contains request (turn actions cursor).cursor (turn actions cursor).read =
      .ok (turn actions cursor).page := by
  have found : findMonitors createdAt (still actions).db
      (request.accepts contains (still actions).now) = rows actions :=
    find_monitors_reverse ordered
  have placed : placedRows createdAt contains request cursor (still actions) =
      shown actions cursor := by
    cases cursor with
    | none => exact found
    | some last => simp only [placedRows, shown, found]
  rw [list, if_neg (by decide)]
  exact congrArg (fun rows => Except.ok (ListPage.of (cutPage 1 rows))) placed

theorem matches_iff {actions : List Action} (cursor : Option MonitorId)
    (ordered : Ranked (fun entry => listRank createdAt entry.1) (rows actions)) (id : MonitorId) :
    request.Matches contains (turn actions cursor).read id ↔ id ∈ (rows actions).map Prod.fst := by
  have found : listedIds createdAt contains request (still actions) =
      (rows actions).map Prod.fst :=
    congrArg (List.map Prod.fst) (find_monitors_reverse ordered)
  rw [← found]
  exact (mem_listed fun stale => absurd stale (by decide)).symm

theorem added_ordered : Ranked (fun entry => listRank createdAt entry.1) (rows added) := by
  unfold Ranked
  decide +kernel

theorem removed_ordered : Ranked (fun entry => listRank createdAt entry.1) (rows removed) := by
  unfold Ranked
  decide +kernel

theorem two_calls {later : List Action} (ordered : Ranked
    (fun entry => listRank createdAt entry.1) (rows later))
    (final : (turn later (some 2)).page.nextCursor = none) :
    Followed createdAt contains request none [turn added none, turn later (some 2)] :=
  .more (turn_answered none added_ordered) (by decide +kernel)
    (.last (turn_answered (some 2) ordered) final)

end Sample

/-- The younger monitor is removed after the first page, and the second page skips the older
one. -/
theorem list_loses_monitor :
    ¬ ∀ (createdAt : MonitorId → Time) (contains : String → String → Bool)
      (request : ListRequest) (turns : List ListTurn),
      Followed createdAt contains request none turns → LosesNothing contains request turns := by
  intro complete
  have followed := Sample.two_calls Sample.removed_ordered (by decide +kernel)
  have once := complete _ _ _ _ followed 1
  have steady : ∀ turn ∈ [Sample.turn Sample.added none, Sample.turn Sample.removed (some 2)],
      Sample.request.Matches Sample.contains turn.read 1 := by
    intro turn member
    rcases List.mem_cons.1 member with rfl | final
    · exact (Sample.matches_iff none Sample.added_ordered 1).2 (by decide +kernel)
    · rw [List.mem_singleton.1 final]
      exact (Sample.matches_iff (some 2) Sample.removed_ordered 1).2 (by decide +kernel)
  have none := once steady
  revert none
  decide +kernel

theorem list_loses_nothing_sample :
    LosesNothing Sample.contains Sample.request
      [Sample.turn Sample.added none, Sample.turn Sample.added (some 2)] := by
  have followed := Sample.two_calls Sample.added_ordered (by decide +kernel)
  refine (list_loses_nothing_iff _ _ _ followed).2 ?_
  rintro turn member id - ⟨last, cursor, invalid, -⟩
  rcases List.mem_cons.1 member with rfl | final
  · cases cursor
  · rw [List.mem_singleton.1 final] at cursor invalid
    cases cursor
    exact invalid ((Sample.matches_iff (some 2) Sample.added_ordered 2).2 (by decide +kernel))

end LinkAlive.MonitorList
