/-
Who is told that a transfer is done.

The owner of a transfer is named by a cookie, and the cookie of a session is its id. Along a run the sessions get their
ids one after another, each transfer gets a ticket of its own, and an interrupt that retires a transfer reports both. So
the ends of transfers that reach a session are those of its own transfers, and no others.

- `Routed`: what is known of a run, up to a point: which sessions were opened, and that what each was told has been
  taken, thrown away or waits;
- `routed_snoc`, `routed_run`: each command keeps it, so every run does;
- `Traced.mem_issued_iff`: a retirement carries a session's id if the ticket was issued to the session, and only then;
- `Traced.dones_receivedBy`, `Traced.not_issued_of_received`, `Traced.nodup_received`: what a session is told of, out of
  the retirements of the run; the last theorem puts them together.
-/
import BoardDriver.Proofs.SessionQueues

namespace BoardDriver
namespace Device

variable {ε : Type} [TransferEngine ε]

namespace Moment

def opening? (m : Moment ε) : Option Session :=
  match m.command, m.answer with
  | .openSession, .ok (.opened s) => some s
  | _, _ => none

/-- the ticket that a submission of the session is answered with -/
def issued? (m : Moment ε) (number : Nat) : Option Ticket :=
  match m.command, m.answer with
  | .session asker (.submit ..), .ok (.submitted ticket _) => if asker = number then some ticket else none
  | _, _ => none

variable {m : Moment ε} {depth : Nat} {clock : Ticket → Duration}

theorem opening?_eq (h : m.before.Ready depth clock) :
    m.opening?.toList = (List.range m.opened).map fun _ =>
      ({ subscriber := m.before.registry.subscribers.length
         id := sessionName m.before.registry.subscribers.length } : Session) := by
  obtain ⟨d, c⟩ := m
  cases c with
  | openSession =>
    have hanswer : (⟨d, .openSession⟩ : Moment ε).answer = .ok (.opened d.openSession.1) := rfl
    simp only [opening?, hanswer, openSession_eq h]
    rfl
  | _ => rfl

/-- a command makes no request and is answered with no ticket, or it makes one for the session that it comes from and
is answered with its ticket -/
theorem made?_cases (h : m.before.Ready depth clock) :
    m.made? = none ∧ (∀ n, m.issued? n = none) ∨
    ∃ number r, number < m.before.registry.subscribers.length ∧ m.made? = some r ∧ r.cookie = sessionName number ∧
      ∀ n, m.issued? n = if number = n then some r.ticket else none := by
  obtain ⟨d, c⟩ := m
  cases c with
  | session number request =>
    cases request with
    | submit direction system device length watched =>
      cases hs : d.session? number with
      | none => exact .inl ⟨by simp [made?, hs], by simp [issued?, answer, step, hs]⟩
      | some s =>
        by_cases hlength : length = 0
        · refine .inl ⟨by simp [made?, hs, hlength], fun n => ?_⟩
          simp [issued?, answer, step, hs, serve, replyWith, submitTransfer, hlength, Except.map]
        · obtain ⟨t, ht, rfl⟩ := session?_cases hs
          refine .inr ⟨number, (d.ledger.newRequest (.between direction system device length) t.id watched).1,
            Registry.lt_length_of_subscriber? ht, by simp [made?, hs, hlength], ?_, fun n => ?_⟩
          · rw [← (h.enrolled.named number t ht).1]
            cases watched <;> rfl
          · simp only [issued?, answer, step, hs, serve, replyWith, submitTransfer, if_neg hlength, Except.map]
            rfl
    | _ => exact .inl ⟨rfl, fun _ => rfl⟩
  | _ => exact .inl ⟨rfl, fun _ => rfl⟩

end Moment

/-! ## Runs -/

/-- the events that a session has taken, those thrown away when it closed, and those that wait for it after the run -/
def receivedBy (number : Nat) (ms : List (Moment ε)) (e : Device ε) : List Event :=
  ms.flatMap (·.dequeued number) ++ ms.flatMap (·.discarded number) ++ e.registry.waiting number

/-- what is known of a run up to a point: the sessions that were opened, in order; and of each, what it was told is what
it has taken, what was thrown away when it closed, and what waits -/
structure Routed (depth : Nat) (clock : Ticket → Duration) (ms : List (Moment ε)) (e : Device ε) : Prop where
  ready : e.Ready depth clock
  before : ∀ m ∈ ms, m.before.Ready depth clock ∧
    m.before.registry.subscribers.length ≤ e.registry.subscribers.length
  openings : ms.filterMap Moment.opening? =
    (List.range e.registry.subscribers.length).map fun n => { subscriber := n, id := sessionName n }
  received : ∀ n, dones (receivedBy n ms e) = Telling.told depth clock n (ms.flatMap Moment.tellings)
  discarded : ∀ n, ms.flatMap (·.discarded n) ≠ [] →
    n < e.registry.subscribers.length ∧ e.registry.subscriber? n = none

variable {depth : Nat} {clock : Ticket → Duration} {ms : List (Moment ε)}

/-- a command keeps it, if the worker has nothing left to do afterwards -/
theorem routed_snoc {m : Moment ε} (h : Routed depth clock ms m.before)
    (hlen : m.before.registry.subscribers.length ≤ 2 ^ 64) (hquiet : QuietEngine ε)
    (hqueue : m.after.dispatcher.queue = []) : Routed depth clock (ms ++ [m]) m.after := by
  obtain ⟨hready, htells⟩ := Moment.ready_after h.ready hlen hquiet hqueue
  have hyields := Moment.yields h.ready hlen
  have hlength : m.after.registry.subscribers.length = m.before.registry.subscribers.length + m.opened :=
    htells.length.trans hyields.length
  refine ⟨hready, fun k hk => ?_, ?_, fun n => ?_, fun n hn => ?_⟩
  · rcases List.mem_append.1 hk with hk | hk
    · obtain ⟨hbefore, hle⟩ := h.before k hk
      exact ⟨hbefore, by omega⟩
    · rw [List.mem_singleton.1 hk]
      exact ⟨h.ready, by omega⟩
  · have hone : [m].filterMap Moment.opening? = m.opening?.toList := by cases hm : m.opening? <;> simp [hm]
    rw [List.filterMap_append, h.openings, hone, Moment.opening?_eq h.ready, hlength, List.range_add, List.map_append,
      List.map_map]
    congr 1
    unfold Moment.opened
    split <;> rfl
  · have hreceived := h.received n
    have htaken := hyields.dones n
    have htold := htells.dones n
    simp only [receivedBy, dones_append, List.flatMap_append, List.flatMap_singleton, Telling.told_append] at *
    rw [htold, ← hreceived, ← htaken]
    -- nothing has been thrown away as long as the session can take something
    by_cases hnone : ms.flatMap (·.discarded n) = []
    · simp [hnone]
    · simp [Moment.dequeued_of_closed (h.discarded n hnone).2]
  · rw [List.flatMap_append, List.flatMap_singleton] at hn
    have hclosed : n < m.before.registry.subscribers.length ∧ m.own.registry.subscriber? n = none := by
      by_cases hnone : ms.flatMap (·.discarded n) = []
      · rw [hnone, List.nil_append] at hn
        exact Moment.closed_of_discarded hn
      · obtain ⟨hlt, hsub⟩ := h.discarded n hnone
        exact ⟨hlt, hyields.staysClosed n hlt hsub⟩
    refine ⟨by omega, ?_⟩
    rw [← Option.isNone_iff_eq_none, ← Option.not_isSome, htells.isSome, hclosed.2]
    decide

/-- a device that was built, before its first command -/
theorem routed_of_build {files : HostFiles} {config : Config} {engine : Option ε} {d : Device ε}
    (hbuild : build files config engine = .ok d) (tickets : TicketCounter) (completions : CompletionTable)
    (elapsed : Ticket → Duration) :
    Routed config.eventDepth elapsed ([] : List (Moment ε)) (d.onHost tickets completions elapsed) := by
  obtain ⟨table, bank, scheduler, dispatcher, -, -, -, -, hdispatcher, rfl⟩ := build_cases hbuild
  have hidle : dispatcher.Idle := by
    unfold Dispatcher.start at hdispatcher
    by_cases hpool : config.dispatchPool = 0
    · rw [if_pos hpool] at hdispatcher
      cases hdispatcher
    · rw [if_neg hpool] at hdispatcher
      cases hdispatcher
      exact ⟨Nat.pos_of_ne_zero hpool, rfl, rfl⟩
  have hnone : ∀ n, ({} : Registry).subscriber? n = none := fun n => rfl
  have henrolled : ({} : Registry).Enrolled config.eventDepth := by
    refine ⟨List.nodup_nil, fun n => ?_, fun n s hs => ?_⟩
    · simp [hnone]
    · rw [hnone] at hs
      cases hs
  exact ⟨⟨rfl, rfl, henrolled, rfl, hidle⟩, by simp, rfl, fun n => rfl, fun n hn => absurd rfl hn⟩

theorem routed_run {d : Device ε} (h : Routed depth clock ([] : List (Moment ε)) d) (hquiet : QuietEngine ε)
    (commands : List Command) (hdrained : ∀ m ∈ d.moments commands, m.after.dispatcher.queue = [])
    (hopens : commands.count .openSession ≤ 2 ^ 64) :
    Routed depth clock (d.moments commands) (d.run commands).1 ∧
      (d.run commands).1.registry.subscribers.length = commands.count .openSession := by
  induction commands using List.reverseRecOn with
  | nil =>
    have hnone := congrArg List.length h.openings
    simp only [List.filterMap_nil, List.length_nil, List.length_map, List.length_range] at hnone
    exact ⟨h, hnone.symm⟩
  | append_singleton commands c ih =>
    rw [moments_snoc] at hdrained ⊢
    rw [List.count_append] at hopens ⊢
    obtain ⟨hrouted, hlength⟩ := ih (fun m hm => hdrained m (List.mem_append_left _ hm)) (by omega)
    let m : Moment ε := ⟨(d.run commands).1, c⟩
    have hafter : (d.run (commands ++ [c])).1 = m.after := run_snoc d commands c
    have hlen : m.before.registry.subscribers.length ≤ 2 ^ 64 := by
      rw [hlength]
      omega
    have hqueue := hdrained m (List.mem_append_right _ (List.mem_singleton_self m))
    rw [hafter]
    refine ⟨routed_snoc hrouted hlen hquiet hqueue, ?_⟩
    have hopened : m.opened = [c].count .openSession := by
      by_cases hc : c = .openSession <;> simp [m, Moment.opened, hc]
    rw [(Moment.ready_after hrouted.ready hlen hquiet hqueue).2.length, (Moment.yields hrouted.ready hlen).length,
      hopened, hlength]

theorem Routed.opening_cases {e : Device ε} (h : Routed depth clock ms e) {s : Session}
    (hs : s ∈ ms.filterMap Moment.opening?) :
    ∃ n, n < e.registry.subscribers.length ∧ s = { subscriber := n, id := sessionName n } := by
  rw [h.openings] at hs
  obtain ⟨n, hn, rfl⟩ := List.mem_map.1 hs
  exact ⟨n, List.mem_range.1 hn, rfl⟩

theorem Routed.nodup_openings {e : Device ε} (h : Routed depth clock ms e) :
    (ms.filterMap Moment.opening?).Nodup := by
  rw [h.openings]
  exact List.nodup_range.map fun m n hmn => congrArg Session.subscriber hmn

/-! ## Tickets and cookies -/

/-- the tickets issued to a session, in order -/
def issued (number : Nat) (ms : List (Moment ε)) : List Ticket := ms.filterMap (·.issued? number)

/-- the retirements that a session should be told of: those of the tickets issued to it that are reported while it is
open, asked for such events and has fewer than `depth` of any kind waiting -/
def deliverable (depth number : Nat) (ms : List (Moment ε)) : List Telling :=
  (ms.flatMap Moment.tellings).filter fun t =>
    t.retired.ticket ∈ issued number ms ∧ t.registry.receives depth number

theorem map_retired_flatMap_tellings (ms : List (Moment ε)) :
    (ms.flatMap Moment.tellings).map Telling.retired = ms.flatMap Moment.retired := by
  simp only [List.map_flatMap, Moment.map_retired_tellings]

/-- a run within one round of tickets and ids, of which both is known: who was told of what, and the account of its
requests -/
structure Traced (depth : Nat) (clock : Ticket → Duration) (ms : List (Moment ε)) (e : Device ε) : Prop where
  routed : Routed depth clock ms e
  ids : e.registry.subscribers.length ≤ 2 ^ 64
  tickets : (ms.filterMap Moment.made?).length ≤ 2 ^ 31
  kept : ∃ s₀ t₀ n₀ left gone x starts, Kept s₀ t₀ n₀ left gone x ∧
    ({} : History).Adds (ms.filterMap Moment.made?) starts (ms.flatMap Moment.retired) x.2

namespace Traced

variable {e : Device ε} {number other : Nat}

/-- the retirements of a run name tickets that are all different -/
theorem nodup_tickets (h : Traced depth clock ms e) :
    ((ms.flatMap Moment.tellings).map fun t => t.retired.ticket).Nodup := by
  obtain ⟨_, _, _, _, _, x, _, hkept, hadds⟩ := h.kept
  have hreports := hkept.nodup_reports (hadds.created ▸ h.tickets) (hadds.reports.trans (zero_add _))
  rw [← map_retired_flatMap_tellings, List.map_map] at hreports
  exact hreports

/-- a retirement is that of a request made in the run, the only one with its ticket -/
theorem made_of_telling (h : Traced depth clock ms e) {t : Telling} (ht : t ∈ ms.flatMap Moment.tellings) :
    ∃ r ∈ ms.filterMap Moment.made?, t.retired.ticket = r.ticket ∧ t.retired.cookie = r.cookie ∧
      ∀ q ∈ ms.filterMap Moment.made?, q.ticket = r.ticket → q = r := by
  obtain ⟨_, _, _, _, _, x, _, hkept, hadds⟩ := h.kept
  have hcreated : x.2.created = ms.filterMap Moment.made? := hadds.created
  have hreported : t.retired ∈ x.2.reports := by
    rw [hadds.reports, ← map_retired_flatMap_tellings]
    exact Multiset.mem_add.2 (.inr (Multiset.mem_coe.2 (List.mem_map_of_mem ht)))
  obtain ⟨r, hsubmitted, hr, -⟩ := hkept.report_cases hreported
  have hmade := hkept.accounted.created_of_submitted hsubmitted
  refine ⟨r, hcreated ▸ hmade, by rw [hr]; rfl, by rw [hr]; rfl, fun q hq hticket => ?_⟩
  exact hkept.eq_of_ticket (hcreated ▸ h.tickets) (hcreated ▸ hq) hmade hticket

/-- a retirement carries a session's id if its ticket was issued to the session, and only then -/
theorem mem_issued_iff (h : Traced depth clock ms e) (hnumber : number < 2 ^ 64) {t : Telling}
    (ht : t ∈ ms.flatMap Moment.tellings) :
    t.retired.ticket ∈ issued number ms ↔ t.retired.cookie = sessionName number := by
  obtain ⟨r, hr, hticket, hcookie, hunique⟩ := h.made_of_telling ht
  rw [hticket, hcookie]
  constructor
  · intro hmem
    obtain ⟨m, hm, hissued⟩ := List.mem_filterMap.1 hmem
    rcases Moment.made?_cases (h.routed.before m hm).1 with ⟨-, hnone⟩ | ⟨k, q, -, hq, hname, hall⟩
    · cases (hnone number).symm.trans hissued
    · rw [hall] at hissued
      by_cases heq : k = number
      · rw [if_pos heq] at hissued
        have hsame : q = r := hunique q (List.mem_filterMap.2 ⟨m, hm, hq⟩) (Option.some.inj hissued)
        rw [← hsame, hname, heq]
      · rw [if_neg heq] at hissued
        cases hissued
  · intro hname
    obtain ⟨m, hm, hmade⟩ := List.mem_filterMap.1 hr
    obtain ⟨hbefore, hle⟩ := h.routed.before m hm
    rcases Moment.made?_cases hbefore with ⟨hnone, -⟩ | ⟨k, q, hk, hq, hname', hall⟩
    · cases hnone.symm.trans hmade
    · cases hq.symm.trans hmade
      have hids := h.ids
      have heq : k = number := sessionName_injOn (by omega) hnumber (hname'.symm.trans hname)
      exact List.mem_filterMap.2 ⟨m, hm, (hall number).trans (if_pos heq)⟩

/-- what a session receives of ends of transfers -/
theorem dones_receivedBy (h : Traced depth clock ms e) (hnumber : number < 2 ^ 64) :
    dones (receivedBy number ms e) = (deliverable depth number ms).map fun t =>
      .dmaDone t.retired.ticket (clock t.retired.ticket) (sessionName number) := by
  have hsame : ∀ t ∈ ms.flatMap Moment.tellings,
      decide (t.retired.cookie = sessionName number ∧ t.registry.receives depth number) =
      decide (t.retired.ticket ∈ issued number ms ∧ t.registry.receives depth number) := by
    intro t ht
    exact decide_eq_decide.2 (and_congr_left' (h.mem_issued_iff hnumber ht).symm)
  refine (h.routed.received number).trans ?_
  unfold Telling.told deliverable
  rw [List.filter_congr hsame]
  refine List.map_congr_left fun t ht => ?_
  obtain ⟨hmem, hyes⟩ := List.mem_filter.1 ht
  rw [Telling.payload, (h.mem_issued_iff hnumber hmem).1 (of_decide_eq_true hyes).1]

/-- the tickets that a session is told of -/
theorem tickets_receivedBy (h : Traced depth clock ms e) (hnumber : number < 2 ^ 64) :
    (dones (receivedBy number ms e)).filterMap Payload.ticket? =
      (deliverable depth number ms).map fun t => t.retired.ticket := by
  rw [h.dones_receivedBy hnumber, List.filterMap_map]
  exact congrFun List.filterMap_eq_map _

/-- a ticket that one session is told of was not issued to another -/
theorem not_issued_of_received (h : Traced depth clock ms e) (hnumber : number < 2 ^ 64) (hother : other < 2 ^ 64)
    (hne : number ≠ other) {ticket : Ticket}
    (htold : ticket ∈ (dones (receivedBy number ms e)).filterMap Payload.ticket?) : ticket ∉ issued other ms := by
  rw [h.tickets_receivedBy hnumber] at htold
  obtain ⟨t, ht, rfl⟩ := List.mem_map.1 htold
  obtain ⟨hmem, hyes⟩ := List.mem_filter.1 ht
  intro hissued
  -- a retirement carries one cookie
  have hname : sessionName number = sessionName other :=
    calc sessionName number
        = t.retired.cookie := ((h.mem_issued_iff hnumber hmem).1 (of_decide_eq_true hyes).1).symm
      _ = sessionName other := (h.mem_issued_iff hother hmem).1 hissued
  exact hne (sessionName_injOn hnumber hother hname)

/-- no ticket is told of twice, whoever is told -/
theorem nodup_received (h : Traced depth clock ms e) : ((ms.filterMap Moment.opening?).flatMap fun s =>
    (dones (receivedBy s.subscriber ms e)).filterMap Payload.ticket?).Nodup := by
  have own : ∀ s ∈ ms.filterMap Moment.opening?,
      ((dones (receivedBy s.subscriber ms e)).filterMap Payload.ticket?).Nodup := by
    intro s hs
    obtain ⟨n, hn, rfl⟩ := h.routed.opening_cases hs
    rw [h.tickets_receivedBy (Nat.lt_of_lt_of_le hn h.ids)]
    exact h.nodup_tickets.sublist (List.filter_sublist.map _)
  refine List.nodup_flatMap.2 ⟨own, h.routed.nodup_openings.pairwise_of_forall_ne fun s hs s' hs' hne => ?_⟩
  obtain ⟨n, hn, rfl⟩ := h.routed.opening_cases hs
  obtain ⟨n', hn', rfl⟩ := h.routed.opening_cases hs'
  have hlt := Nat.lt_of_lt_of_le hn h.ids
  have hlt' := Nat.lt_of_lt_of_le hn' h.ids
  intro ticket hmem hmem'
  have hissued : ticket ∈ issued n' ms := by
    change ticket ∈ (dones (receivedBy n' ms e)).filterMap Payload.ticket? at hmem'
    rw [h.tickets_receivedBy hlt'] at hmem'
    obtain ⟨t, ht, rfl⟩ := List.mem_map.1 hmem'
    exact (of_decide_eq_true (List.mem_filter.1 ht).2).1
  have hapart : n ≠ n' := fun e => hne (e ▸ rfl)
  exact h.not_issued_of_received hlt hlt' hapart hmem hissued

end Traced

/-! ## What the sessions receive -/

/-- **The end of a transfer is told to the session that submitted it, and to nobody else.** For every device that was
built and every run of commands after each of which nothing waits for the worker:
- the reports that owners are told of are all the retirements that interrupts were answered with, in order;
- what a session is told of ends of transfers (what it has taken, then what was thrown away when it closed, then what
  waits) are the retirements of the tickets issued to it, in order, that were reported while it was open, had asked for
  such events and had fewer than `eventDepth` events waiting; each carries the ticket and the session's id;
- nothing is thrown away while the session is open;
- no other session, whenever it was opened, is told of a ticket issued to it;
- no ticket is told of twice.

Tickets have 31 bits and ids have 64, and both are dealt in a circle: the run stays within one round of each. An engine
given from outside may report accesses to registers and nothing else. -/
theorem dma_done_routing {files : HostFiles} {config : Config} {engine : Option ε} {d : Device ε}
    (hbuild : build files config engine = .ok d) (hquiet : QuietEngine ε) (tickets : TicketCounter)
    (completions : CompletionTable) (elapsed : Ticket → Duration) (commands : List Command)
    (hdrained : ∀ m ∈ (d.onHost tickets completions elapsed).moments commands, m.after.dispatcher.queue = [])
    (htickets : (((d.onHost tickets completions elapsed).moments commands).filterMap Moment.made?).length ≤ 2 ^ 31)
    (hopens : commands.count .openSession ≤ 2 ^ 64) :
    let host := d.onHost tickets completions elapsed
    let ms := host.moments commands
    let e := (host.run commands).1
    let sessions := ms.filterMap Moment.opening?
    (ms.flatMap Moment.tellings).map Telling.retired = ms.flatMap Moment.retired ∧
    (∀ s ∈ sessions,
      (dones (receivedBy s.subscriber ms e) =
        (deliverable config.eventDepth s.subscriber ms).map fun t =>
          .dmaDone t.retired.ticket (elapsed t.retired.ticket) s.id) ∧
      (e.session? s.subscriber = some s → ms.flatMap (·.discarded s.subscriber) = []) ∧
      (∀ s' ∈ sessions, s' ≠ s → ∀ p ∈ dones (receivedBy s'.subscriber ms e),
        ∀ ticket ∈ issued s.subscriber ms, p.ticket? ≠ some ticket)) ∧
    (sessions.flatMap fun s => (dones (receivedBy s.subscriber ms e)).filterMap Payload.ticket?).Nodup := by
  intro host ms e sessions
  obtain ⟨hrouted, hlength⟩ := routed_run (routed_of_build hbuild tickets completions elapsed) hquiet commands
    hdrained hopens
  have htraced : Traced config.eventDepth elapsed ms e := by
    obtain ⟨s₀, left, gone, h, hkept, hadds⟩ := kept_run hbuild tickets completions elapsed commands
    exact ⟨hrouted, hlength ▸ hopens, htickets, _, _, _, _, _, _, _, hkept, hadds⟩
  refine ⟨map_retired_flatMap_tellings ms, fun s hs => ?_, htraced.nodup_received⟩
  obtain ⟨n, hn, rfl⟩ := hrouted.opening_cases hs
  have hlt := Nat.lt_of_lt_of_le hn htraced.ids
  refine ⟨htraced.dones_receivedBy hlt, ?_, ?_⟩
  · intro hopen
    by_contra hnone
    have hclosed := (hrouted.discarded n hnone).2
    rw [session?, hclosed] at hopen
    cases hopen
  · intro s' hs' hne p hp ticket hissued hticket
    obtain ⟨n', hn', rfl⟩ := hrouted.opening_cases hs'
    have hapart : n' ≠ n := fun e => hne (e ▸ rfl)
    have hmem := List.mem_filterMap.2 ⟨p, hp, hticket⟩
    exact htraced.not_issued_of_received (Nat.lt_of_lt_of_le hn' htraced.ids) hlt hapart hmem hissued

/-- three sessions of a board: the first closes while its second transfer is in flight, the third opens after that -/
def threeSessions : List Command :=
  [.openSession, .openSession, .session 0 (.setEventMask EventKind.all), .session 1 (.setEventMask EventKind.all),
   .session 0 (.submit .down 0 0x1000 64 false), .session 1 (.submit .down 0 0x1000 64 false),
   .session 0 (.submit .down 0 0x1000 64 true), .interrupt 33, .interrupt 32, .session 0 .dequeue, .session 0 .close,
   .openSession, .session 2 (.setEventMask EventKind.all), .interrupt 34]

/-- three transfers are retired; each of the first two sessions is told of one of its own, and the third session is not
told of the transfer that outlived the first -/
theorem dma_done_routing_threeSessions :
    let host := nineChannelBoard.onHost {} {} fun _ => ⟨5⟩
    let ms := host.moments threeSessions
    let e := (host.run threeSessions).1
    (ms.flatMap Moment.retired).map Retired.ticket = [⟨2⟩, ⟨1⟩, ⟨3⟩] ∧ issued 0 ms = [⟨1⟩, ⟨3⟩] ∧
    dones (receivedBy 0 ms e) = [.dmaDone ⟨1⟩ ⟨5⟩ ⟨1⟩] ∧ dones (receivedBy 1 ms e) = [.dmaDone ⟨2⟩ ⟨5⟩ ⟨2⟩] ∧
    ∀ p ∈ dones (receivedBy 2 ms e), p.ticket? ≠ some ⟨3⟩ := by
  intro host ms e
  obtain ⟨-, hsessions, -⟩ := dma_done_routing build_nineChannelBoard Start.plain_program {} {} (fun _ => ⟨5⟩)
    threeSessions (by decide +kernel) (by decide +kernel) (by decide +kernel)
  have hopened : ms.filterMap Moment.opening? = [⟨0, ⟨1⟩⟩, ⟨1, ⟨2⟩⟩, ⟨2, ⟨3⟩⟩] := by decide +kernel
  obtain ⟨hfirst, -, hapart⟩ := hsessions ⟨0, ⟨1⟩⟩ (hopened ▸ by decide)
  obtain ⟨hsecond, -, -⟩ := hsessions ⟨1, ⟨2⟩⟩ (hopened ▸ by decide)
  have hissued : issued 0 ms = [⟨1⟩, ⟨3⟩] := by decide +kernel
  refine ⟨by decide +kernel, hissued, hfirst.trans (by decide +kernel), hsecond.trans (by decide +kernel), ?_⟩
  intro p hp
  exact hapart ⟨2, ⟨3⟩⟩ (hopened ▸ by decide) (by decide) p hp ⟨3⟩ (hissued ▸ by decide)

end Device
end BoardDriver
