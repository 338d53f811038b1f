import Tombola.Proofs.Paging
import Tombola.Proofs.WellFormed

/-!
# The raffle listing is what its filters say

Without a buyer the listing goes through the stored raffles, with one it goes through the holdings
of that buyer and looks each raffle up. The holdings are in step with the ledgers, so both ways come
to the same raffles, and the filters, the limit and the cursor mean the same on either.
-/

namespace Tombola

open Contract Std

/-- The raffle satisfies every filter that is given: it is in one of the phases, it has the owner
and a prize of the collection or denomination, and its ledger holds a ticket of the buyer. -/
structure Filters.Admits (f : Filters) (s : Store) (now : Timestamp) (id : RaffleId) (r : Raffle) :
    Prop where
  phase : ∀ names, f.phases = some names → ∃ p, r.phase? now = some p ∧ p.text ∈ names
  owner : ∀ owner, f.owner = some owner → r.owner = owner
  prize : ∀ key, f.prizeKey = some key → ∃ prize ∈ r.prizes, prize.key = key
  buyer : ∀ buyer, f.buyer = some buyer → 0 < (s.ledger id).ticketsOf buyer

/-- The reports on the raffles after an id that satisfy the filters, in the order of their ids, each
with its phase at the time. -/
structure Listing (s : Store) (now : Timestamp) (f : Filters) (after : Option RaffleId)
    (reports : List RaffleReport) : Prop where
  ascending : reports.Pairwise fun a b => a.id < b.id
  exact : ∀ report, report ∈ reports ↔ ∃ r, s.raffles.get? report.id = some r ∧
    (∀ id, after = some id → id < report.id) ∧ f.Admits s now report.id r ∧
    report.raffle = some r ∧ r.phase? now = some report.phase

/-- The id of the last raffle of a page; the cursor itself when the page is empty. -/
def lastListed (cursor : Option RaffleId) (page : List RaffleReport) : Option RaffleId :=
  (page.getLast?.map (·.id)).or cursor

variable {clock : Clock} {now : Timestamp} {s : Store} {f : Filters} {id : RaffleId} {r : Raffle}
  {after : Option RaffleId} {reports : List RaffleReport}

/-! ## A listing is determined by what it lists -/

namespace Listing

theorem unique {reports' : List RaffleReport} (h : Listing s now f after reports)
    (h' : Listing s now f after reports') : reports = reports' := by
  apply Table.eq_of_ascending _ h.ascending h'.ascending
  · intro report
    rw [h.exact, h'.exact]
  · intro a b hab
    exact not_lt.mpr (le_of_lt hab)

/-- What is left of a listing after a page is the listing after the last raffle of the page. -/
theorem drop (h : Listing s now f after reports) {n : Nat} {last : RaffleReport}
    (hlast : (reports.take n).getLast? = some last) :
    Listing s now f (some last.id) (reports.drop n) := by
  have hascending := h.ascending
  rw [← List.take_append_drop n reports, List.pairwise_append] at hascending
  obtain ⟨hpage, hrest, hcross⟩ := hascending
  have hmem : last ∈ reports.take n := List.mem_of_getLast? hlast
  have hle : ∀ report ∈ reports.take n, report.id ≤ last.id := by
    intro report hreport
    obtain ⟨front, hfront⟩ := List.getLast?_eq_some_iff.mp hlast
    rw [hfront] at hpage hreport
    rcases List.mem_append.mp hreport with hreport | hreport
    · exact le_of_lt ((List.pairwise_append.mp hpage).2.2 report hreport last (by simp))
    · exact le_of_eq (congrArg _ (List.mem_singleton.mp hreport))
  have hlist : ∀ report, report ∈ reports.drop n ↔ report ∈ reports ∧ last.id < report.id := by
    intro report
    constructor
    · intro hreport
      exact ⟨List.mem_of_mem_drop hreport, hcross last hmem report hreport⟩
    · rintro ⟨hreport, hlt⟩
      rw [← List.take_append_drop n reports, List.mem_append] at hreport
      apply hreport.resolve_left
      intro hpage
      exact absurd hlt (not_lt.mpr (hle report hpage))
  obtain ⟨_, _, hafter, _⟩ := (h.exact last).mp (List.mem_of_mem_take hmem)
  refine ⟨hrest, fun report => ?_⟩
  rw [hlist, h.exact]
  constructor
  · rintro ⟨⟨r, hr, _, hadmits, hreport⟩, hlt⟩
    exact ⟨r, hr, fun id hid => Option.some.inj hid ▸ hlt, hadmits, hreport⟩
  · rintro ⟨r, hr, hlt, hadmits, hreport⟩
    have hlt := hlt last.id rfl
    exact ⟨⟨r, hr, fun id hid => lt_trans (hafter id hid) hlt, hadmits, hreport⟩, hlt⟩

/-- The listing for a buyer is cut out of the listing for all. -/
theorem filter {all : List RaffleReport} {buyer : Address}
    (h : Listing s now { f with buyer := none } after all) (hf : f.buyer = some buyer) :
    Listing s now f after
      (all.filter fun report => decide (0 < (s.ledger report.id).ticketsOf buyer)) := by
  refine ⟨h.ascending.filter _, fun report => ?_⟩
  rw [List.mem_filter, h.exact, decide_eq_true_eq]
  constructor
  · rintro ⟨⟨r, hr, hafter, hadmits, hreport⟩, hticket⟩
    refine ⟨r, hr, hafter, ⟨hadmits.phase, hadmits.owner, hadmits.prize, ?_⟩, hreport⟩
    intro buyer' hbuyer'
    obtain rfl := Option.some.inj (hf.symm.trans hbuyer')
    exact hticket
  · rintro ⟨r, hr, hafter, hadmits, hreport⟩
    exact ⟨⟨r, hr, hafter, ⟨hadmits.phase, hadmits.owner, hadmits.prize, nofun⟩, hreport⟩,
      hadmits.buyer buyer hf⟩

end Listing

/-! ## What is gathered -/

namespace Filters

/-- The record alone passes the filters. -/
def selects (f : Filters) (now : Timestamp) (r : Raffle) : Bool :=
  (match f.phases with
    | some names => (r.phase? now).any fun p => names.contains p.text
    | .none => true) && (hasOwner r f && hasPrizeKey r f)

/-- The report on a raffle that passes the filters. -/
def report? (f : Filters) (now : Timestamp) (e : RaffleId × Raffle) : Option RaffleReport :=
  if f.selects now e.2 then (e.2.phase? now).map fun p => ⟨e.1, p, some e.2⟩ else .none

theorem hasOwner_iff : hasOwner r f = true ↔ ∀ owner, f.owner = some owner → r.owner = owner := by
  unfold hasOwner
  cases f.owner <;> simp

theorem hasPrizeKey_iff : hasPrizeKey r f = true ↔
    ∀ key, f.prizeKey = some key → ∃ prize ∈ r.prizes, prize.key = key := by
  unfold hasPrizeKey
  cases f.prizeKey <;> simp

theorem admits_iff : f.Admits s now id r ↔ f.selects now r = true ∧
    ∀ buyer, f.buyer = some buyer → 0 < (s.ledger id).ticketsOf buyer := by
  have hphases : (match f.phases with
      | some names => (r.phase? now).any fun p => names.contains p.text
      | .none => true) = true ↔
        ∀ names, f.phases = some names → ∃ p, r.phase? now = some p ∧ p.text ∈ names := by
    cases f.phases <;> simp [Option.any_eq_true]
  rw [selects, Bool.and_eq_true, Bool.and_eq_true, hphases, hasOwner_iff, hasPrizeKey_iff]
  constructor
  · intro h
    exact ⟨⟨h.phase, h.owner, h.prize⟩, h.buyer⟩
  · rintro ⟨⟨hphase, howner, hprize⟩, hbuyer⟩
    exact ⟨hphase, howner, hprize, hbuyer⟩

theorem report?_eq_some {e : RaffleId × Raffle} {report : RaffleReport} :
    f.report? now e = some report ↔ f.selects now e.2 = true ∧ report.id = e.1 ∧
      report.raffle = some e.2 ∧ e.2.phase? now = some report.phase := by
  unfold report?
  split
  · next hselects =>
    rw [Option.map_eq_some_iff]
    constructor
    · rintro ⟨p, hp, rfl⟩
      exact ⟨hselects, rfl, rfl, hp⟩
    · rintro ⟨_, hid, hraffle, hphase⟩
      refine ⟨report.phase, hphase, ?_⟩
      cases report
      cases hid
      cases hraffle
      rfl
  · next hselects => simp [hselects]

end Filters

namespace Contract

theorem passes_eq {p : Phase} (hp : r.phase? now = some p) :
    passes now r f = .ok (f.selects now r) := by
  unfold passes inPhases Filters.selects
  rw [hp]
  cases f.phases with
  | none => rfl
  | some names =>
      change (if names.contains p.text then pure (hasOwner r f && hasPrizeKey r f) else pure false :
        Outcome Bool) = .ok (names.contains p.text && (hasOwner r f && hasPrizeKey r f))
      cases names.contains p.text <;> rfl

/-- The raffles that pass the filters are listed until the page is full. -/
theorem gather_eq {es : List (RaffleId × Raffle)}
    (hphase : ∀ e ∈ es, ∃ p, e.2.phase? now = some p) (room : Nat) :
    gather now f room (es.map fun e => (e.1, pure e.2)) =
      .ok ((es.filterMap (f.report? now)).take room) := by
  induction es generalizing room with
  | nil => cases room <;> simp [gather, Outcome.pure_eq_ok]
  | cons e rest ih =>
      have hrest := ih fun e he => hphase e (List.mem_cons_of_mem _ he)
      obtain ⟨p, hp⟩ := hphase e List.mem_cons_self
      cases room with
      | zero => simp [gather, Outcome.pure_eq_ok]
      | succ room =>
          have hstep : gather now f (room + 1) ((e :: rest).map fun e => (e.1, pure e.2)) = (do
              if ← passes now e.2 f then
                let report ← reportOf now e.1 e.2
                let reports ← gather now f room (rest.map fun e => (e.1, pure e.2))
                pure (report :: reports)
              else gather now f (room + 1) (rest.map fun e => (e.1, pure e.2))) := rfl
          rw [hstep, passes_eq hp, Outcome.ok_bind]
          by_cases hselects : f.selects now e.2 = true
          · have hreport : f.report? now e = some ⟨e.1, p, some e.2⟩ :=
              Filters.report?_eq_some.mpr ⟨hselects, rfl, rfl, hp⟩
            rw [if_pos hselects, hrest, List.filterMap_cons_some hreport, List.take_succ_cons,
              reportOf, hp]
            rfl
          · have hreport : f.report? now e = none := if_neg hselects
            rw [if_neg hselects, hrest, List.filterMap_cons_none hreport]

/-- The raffles that are gone through: all after the cursor, or those of them that the buyer has
tickets of. -/
def scanned (s : Store) (f : Filters) (after : Option RaffleId) : List (RaffleId × Raffle) :=
  match f.buyer with
  | none => s.raffles.after after
  | some buyer => (s.raffles.after after).filter fun e => 0 < (s.ledger e.1).ticketsOf buyer

theorem mem_scanned_iff {e : RaffleId × Raffle} : e ∈ scanned s f after ↔
    s.raffles.get? e.1 = some e.2 ∧ (∀ id, after = some id → id < e.1) ∧
      ∀ buyer, f.buyer = some buyer → 0 < (s.ledger e.1).ticketsOf buyer := by
  unfold scanned
  cases f.buyer with
  | none => simp [Table.mem_after_iff, compare_eq_lt]
  | some buyer => simp [Table.mem_after_iff, compare_eq_lt, List.mem_filter, and_assoc]

theorem ordered_scanned (s : Store) (f : Filters) (after : Option RaffleId) :
    (scanned s f after).Pairwise fun a b => a.1 < b.1 := by
  have hafter : (s.raffles.after after).Pairwise fun a b => a.1 < b.1 :=
    (s.raffles.ordered_after after).imp compare_eq_lt.mp
  unfold scanned
  split
  · exact hafter
  · exact hafter.filter _

/-- What is gathered from the raffles gone through is the listing. -/
theorem listing_scanned (s : Store) (now : Timestamp) (f : Filters) (after : Option RaffleId) :
    Listing s now f after ((scanned s f after).filterMap (f.report? now)) := by
  constructor
  · rw [List.pairwise_filterMap]
    apply (ordered_scanned s f after).imp
    intro e e' hlt report hreport report' hreport'
    obtain ⟨_, hid, _⟩ := Filters.report?_eq_some.mp hreport
    obtain ⟨_, hid', _⟩ := Filters.report?_eq_some.mp hreport'
    rw [hid, hid']
    exact hlt
  · intro report
    rw [List.mem_filterMap]
    constructor
    · rintro ⟨e, he, hreport⟩
      obtain ⟨hselects, hid, hraffle, hphase⟩ := Filters.report?_eq_some.mp hreport
      obtain ⟨hr, hafter, hbuyer⟩ := mem_scanned_iff.mp he
      rw [← hid] at hr hafter hbuyer
      exact ⟨e.2, hr, hafter, Filters.admits_iff.mpr ⟨hselects, hbuyer⟩, hraffle, hphase⟩
    · rintro ⟨r, hr, hafter, hadmits, hraffle, hphase⟩
      obtain ⟨hselects, hbuyer⟩ := Filters.admits_iff.mp hadmits
      exact ⟨(report.id, r), mem_scanned_iff.mpr ⟨hr, hafter, hbuyer⟩,
        Filters.report?_eq_some.mpr ⟨hselects, rfl, hraffle, hphase⟩⟩

end Contract

/-! ## Holdings are in step with ledgers -/

/-- Every raffle of the store closes at a time in range and may sell fewer tickets than the greatest
count. -/
def Store.Readable (s : Store) : Prop :=
  ∀ id r, s.raffles.get? id = some r → r.closing?.isSome ∧ r.Bounded

theorem Store.Readable.phase (h : s.Readable) (hr : s.raffles.get? id = some r) (now : Timestamp) :
    ∃ p, r.phase? now = some p := by
  rw [← Option.isSome_iff_exists, ← Option.ne_none_iff_isSome]
  intro hnone
  have hclosing := (h id r hr).1
  rw [(Raffle.phase?_eq_none.mp hnone).2.2] at hclosing
  cases hclosing

/-- A buyer has an entry for a raffle exactly when its ledger holds a ticket of the buyer. -/
theorem Reachable.held_iff (h : Reachable .forward now s) (hr : s.raffles.get? id = some r)
    (hb : r.Bounded) (buyer : Address) :
    ((s.holdingsOf buyer).get? id).isSome ↔ 0 < (s.ledger id).ticketsOf buyer := by
  have hbooks := ((h.accounted id).books hr (.inr hb)).holdings buyer
  rw [hbooks, Store.holding]
  cases hcount : (s.holdingsOf buyer).get? id with
  | none => simp
  | some count =>
      have hne := h.holding_ne_zero hcount
      have hpos : count.toNat ≠ 0 := fun hz => hne (UInt32.toNat_inj.mp hz)
      simp only [Option.isSome_some, Option.getD_some, true_iff]
      omega

/-- The raffles that a buyer has entries for are those whose ledgers hold tickets of the buyer. -/
theorem Reachable.held_ids_eq (h : Reachable .forward now s) (hs : s.Readable) {buyer : Address}
    (hf : f.buyer = some buyer) (after : Option RaffleId) :
    ((s.holdingsOf buyer).after after).map (·.1) = (scanned s f after).map (·.1) := by
  have hheld : (((s.holdingsOf buyer).after after).map (·.1)).Pairwise fun a b => a < b :=
    List.pairwise_map.mpr (((s.holdingsOf buyer).ordered_after after).imp compare_eq_lt.mp)
  have hscanned : ((scanned s f after).map (·.1)).Pairwise fun a b => a < b :=
    List.pairwise_map.mpr (ordered_scanned s f after)
  -- Both tables are in the order of the ids, so it is enough that each has the ids of the other.
  apply Table.eq_of_ascending _ hheld hscanned
  · intro id
    constructor
    · intro hid
      obtain ⟨e, he, rfl⟩ := List.mem_map.mp hid
      obtain ⟨hcount, hafter⟩ := Table.mem_after_iff.mp he
      obtain ⟨r, hr⟩ := Option.isSome_iff_exists.mp (h.stored_of_mentions (.holding hcount))
      apply List.mem_map.mpr
      refine ⟨(e.1, r), mem_scanned_iff.mpr ⟨hr, ?_, ?_⟩, rfl⟩
      · intro id hid
        exact compare_eq_lt.mp (hafter id hid)
      · intro buyer' hbuyer'
        obtain rfl := Option.some.inj (hf.symm.trans hbuyer')
        apply (h.held_iff hr (hs _ r hr).2 buyer).mp
        rw [hcount]
        rfl
    · intro hid
      obtain ⟨e, he, rfl⟩ := List.mem_map.mp hid
      obtain ⟨hr, hafter, hticket⟩ := mem_scanned_iff.mp he
      obtain ⟨count, hcount⟩ := Option.isSome_iff_exists.mp
        ((h.held_iff hr (hs _ _ hr).2 buyer).mpr (hticket buyer hf))
      apply List.mem_map.mpr
      exact ⟨(e.1, count), Table.mem_after_iff.mpr
        ⟨hcount, fun id hid => compare_eq_lt.mpr (hafter id hid)⟩, rfl⟩
  · intro a b hab
    exact not_lt.mpr (le_of_lt hab)

/-- The scan over the entries of a buyer goes through the same raffles. -/
theorem Reachable.candidates_eq (h : Reachable .forward now s) (hs : s.Readable)
    (hbuyer : ∀ buyer, f.buyer = some buyer → ∃ a, buyer.validate = .ok a)
    (after : Option RaffleId) :
    candidates s after f = .ok ((scanned s f after).map fun e => (e.1, pure e.2)) := by
  cases hf : f.buyer with
  | none =>
      rw [candidates, scanned, hf]
      rfl
  | some buyer =>
      obtain ⟨a, ha⟩ := hbuyer buyer hf
      obtain rfl := (validate_eq_ok.mp ha).2.symm
      have hread : ∀ e ∈ scanned s f after, s.getRaffle e.1 = pure e.2 := by
        intro e he
        exact Store.getRaffle_of (mem_scanned_iff.mp he).1
      calc
        candidates s after f
          = .ok ((((s.holdingsOf buyer).after after).map (·.1)).map
              fun id => (id, s.getRaffle id)) := by
            rw [candidates, hf]
            dsimp only
            rw [ha, Outcome.ok_bind, List.map_map]
            rfl
        _ = .ok ((scanned s f after).map fun e => (e.1, s.getRaffle e.1)) := by
            rw [h.held_ids_eq hs hf, List.map_map]
            rfl
        _ = .ok ((scanned s f after).map fun e => (e.1, pure e.2)) := by
            rw [List.map_congr_left fun e he => by rw [hread e he]]

/-- A page of the listing is cut from what is left after its cursor. -/
theorem Reachable.reportRaffles_eq (h : Reachable .forward now s) (hs : s.Readable)
    (later : Timestamp) {filters : Option Filters}
    (hbuyer : ∀ buyer, (filters.getD .none).buyer = some buyer → ∃ a, buyer.validate = .ok a)
    (hlisting : Listing s later (filters.getD .none) after reports) (limit : Option UInt32) :
    reportRaffles s later ⟨after, limit, filters⟩ = .ok (reports.take (pageSize limit)) := by
  have hphase : ∀ e ∈ scanned s (filters.getD .none) after, ∃ p, e.2.phase? later = some p := by
    intro e he
    exact hs.phase (mem_scanned_iff.mp he).1 later
  rw [reportRaffles, h.candidates_eq hs hbuyer, Outcome.ok_bind, gather_eq hphase,
    (listing_scanned s later _ after).unique hlisting]

/-- Pages of raffles follow each other without a gap. -/
theorem Reachable.reportRaffles_paged (h : Reachable .forward now s) (hs : s.Readable)
    (later : Timestamp) {filters : Option Filters}
    (hbuyer : ∀ buyer, (filters.getD .none).buyer = some buyer → ∃ a, buyer.validate = .ok a) :
    Paged (fun after limit => reportRaffles s later ⟨after, limit, filters⟩) lastListed
      fun after => (scanned s (filters.getD .none) after).filterMap
        ((filters.getD .none).report? later) where
  page after limit := h.reportRaffles_eq hs later hbuyer (listing_scanned s later _ after) limit
  rest after n := by
    have hlisting := listing_scanned s later (filters.getD .none) after
    rw [lastListed]
    cases hlast : (((scanned s (filters.getD .none) after).filterMap
        ((filters.getD .none).report? later)).take n).getLast? with
    | none =>
        rw [Option.map_none, Option.none_or]
        rcases List.take_eq_nil_iff.mp (List.getLast?_eq_none_iff.mp hlast) with hn | hnil
        · rw [hn, List.drop_zero]
        · rw [hnil, List.drop_nil]
    | some last =>
        rw [Option.map_some, Option.some_or]
        exact (listing_scanned s later _ (some last.id)).unique (hlisting.drop hlast)

/-- Whatever the filters, a page of the raffle listing is cut from the reports on exactly the
raffles after its cursor that satisfy them, in ascending order, and pages chained by the last id
rebuild all of these. For a buyer, who is looked up in another table, they are the ones that
filtering the listing for everybody gives. -/
theorem raffle_listing_eq_specification {opening : Timestamp} (h : Reachable .forward opening s)
    (hs : s.Readable) (now : Timestamp) (filters : Option Filters)
    (hbuyer : ∀ buyer, (filters.getD .none).buyer = some buyer → ∃ a, buyer.validate = .ok a)
    (after : Option RaffleId) : ∃ reports,
      Listing s now (filters.getD .none) after reports ∧
      (∀ limit, reportRaffles s now ⟨after, limit, filters⟩ =
        .ok (reports.take (pageSize limit))) ∧
      Rebuilds (fun after limit => reportRaffles s now ⟨after, limit, filters⟩) lastListed after
        reports ∧
      ∀ buyer, (filters.getD .none).buyer = some buyer → ∃ all,
        Listing s now { filters.getD .none with buyer := none } after all ∧
        (∀ limit, reportRaffles s now ⟨after, limit,
          some { filters.getD .none with buyer := none }⟩ = .ok (all.take (pageSize limit))) ∧
        reports = all.filter fun report => decide (0 < (s.ledger report.id).ticketsOf buyer) := by
  have hlisting := listing_scanned s now (filters.getD .none) after
  refine ⟨_, hlisting, h.reportRaffles_eq hs now hbuyer hlisting,
    (h.reportRaffles_paged hs now hbuyer).rebuilds after, ?_⟩
  intro buyer hf
  let anybody : Option Filters := some { filters.getD .none with buyer := none }
  have hanybody (buyer : Address) (h : (anybody.getD .none).buyer = some buyer) :
      ∃ a, buyer.validate = .ok a := nomatch h
  have hall := listing_scanned s now (anybody.getD .none) after
  exact ⟨_, hall, h.reportRaffles_eq hs now hanybody hall, hlisting.unique (hall.filter hf)⟩

/-- The raffle of the small run is listed for the buyer of its tickets. -/
theorem raffle_of_sample_listed : ∃ reports : List RaffleReport,
    reportRaffles Sample.sold ⟨6⟩ ⟨none, some 5, some { Filters.none with buyer := some "buyer" }⟩ =
      .ok (reports.take 5) ∧ ∃ report ∈ reports, report.id = 0 := by
  obtain ⟨r, hentries, hclosing, hb⟩ : ∃ r, Sample.sold.raffles.entries = [(0, r)] ∧
    r.closing?.isSome ∧ r.Bounded := ⟨_, rfl, by decide +kernel, _, rfl, by decide⟩
  have hreadable : Sample.sold.Readable := by
    intro id r' hr'
    have hmem := (Table.mem_entries_iff _ id r').mpr hr'
    rw [hentries, List.mem_singleton] at hmem
    obtain ⟨_, rfl⟩ := Prod.mk.inj hmem
    exact ⟨hclosing, hb⟩
  have hvalid (buyer : Address) (h : some "buyer" = some buyer) : ∃ a, buyer.validate = .ok a := by
    obtain rfl := Option.some.inj h
    exact ⟨"buyer", rfl⟩
  obtain ⟨reports, hlisting, hpage, _⟩ := raffle_listing_eq_specification Sample.sold_reachable
    hreadable ⟨6⟩ (some { Filters.none with buyer := some "buyer" }) hvalid none
  have hkept : Sample.sold.raffles.get? 0 = some r :=
    (Table.mem_entries_iff _ 0 r).mp (hentries ▸ List.mem_singleton_self _)
  have hticket : 0 < (Sample.sold.ledger 0).ticketsOf "buyer" := by decide
  obtain ⟨p, hp⟩ := hreadable.phase hkept ⟨6⟩
  have hlisted := (hlisting.exact ⟨0, p, some r⟩).mpr
    ⟨r, hkept, nofun, ⟨nofun, nofun, nofun, fun _ h => Option.some.inj h ▸ hticket⟩, rfl, hp⟩
  exact ⟨reports, hpage (some 5), _, hlisted, rfl⟩

end Tombola
