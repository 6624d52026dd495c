/-
What a device keeps books of, through whole runs.

A device answers interrupts through its books as a unit does, so what a unit's books keep, a device's books keep: every
command is a sequence of pieces of bookkeeping (`Posts`), and the history that goes with it is told by the commands, by
the starts its engine was told and by the interrupts that were answered.

- `build_cases`: what a device that was built is made of;
- `interruptWithin_settles`, `submit_settles`: a device retires requests one after another, however deep the answers
  are nested;
- `Moment.posts`, `run_posts`: a command, and a run, as pieces of bookkeeping;
- `kept_run`: the pool, the order, the numbers and the account of requests, after every run of a device that was built.
-/
import BoardDriver.Proofs.InterruptRouting
import BoardDriver.Proofs.Replay
import BoardDriver.Proofs.RequestFate

namespace BoardDriver

namespace Kept

variable {s₀ : Scheduler} {t₀ : TicketCounter} {n₀ : Nat} {left : List Departure} {gone : List Completed}
  {x y : TransferLedger × History}

/-- a sequence of pieces of bookkeeping keeps what each of them keeps -/
theorem posts_star (k : Kept s₀ t₀ n₀ left gone x) (p : Relation.ReflTransGen Posts x y) :
    ∃ left' gone', Kept s₀ t₀ n₀ left' gone' y := by
  induction p with
  | refl => exact ⟨left, gone, k⟩
  | tail _ p ih =>
    obtain ⟨_, _, k⟩ := ih
    exact k.posts p

/-- every start is that of a request made -/
theorem start_cases (k : Kept s₀ t₀ n₀ left gone x) {a : Start} (ha : a ∈ x.2.starts) :
    ∃ r ∈ x.2.created, a = r.startOn a.channel := by
  rw [k.ordered.told] at ha
  obtain ⟨d, hd, hstart⟩ := List.mem_filterMap.1 ha
  obtain ⟨ch, -, rfl⟩ := Option.map_eq_some_iff.1 hstart
  have hsub : d.request ∈ x.2.submitted :=
    k.ordered.handed ▸ List.mem_append_left _ (List.mem_map_of_mem hd)
  exact ⟨d.request, k.accounted.created_of_submitted hsub, rfl⟩

/-- a ticket is reported once at most -/
theorem nodup_reports (k : Kept s₀ t₀ n₀ left gone x) (hc : x.2.created.length ≤ 2 ^ 31) {reports : List Retired}
    (h : x.2.reports = ↑reports) : (reports.map Retired.ticket).Nodup := by
  have hgone : (gone.map Completed.request).Nodup := by
    refine List.nodup_iff_count_le_one.2 fun r => ?_
    by_cases hr : r ∈ x.2.submitted
    · have hone := k.count_submitted hc hr
      have hall := k.accounted.handed r
      omega
    · have hall := k.accounted.handed r
      rw [List.count_eq_zero.2 hr] at hall
      omega
  have htickets : ((gone.map Completed.request).map Request.ticket).Nodup := by
    refine hgone.map_on fun r hr q hq hrq => ?_
    obtain ⟨d, hd, rfl⟩ := List.mem_map.1 hr
    obtain ⟨e, he, rfl⟩ := List.mem_map.1 hq
    exact k.eq_of_ticket hc (k.accounted.created_of_submitted (k.accounted.submitted_of_gone hd))
      (k.accounted.created_of_submitted (k.accounted.submitted_of_gone he)) hrq
  have hperm : reports.Perm (gone.map Completed.report) := Multiset.coe_eq_coe.1 (h.symm.trans k.accounted.reported)
  refine (hperm.map Retired.ticket).nodup_iff.2 ?_
  rw [List.map_map] at htickets ⊢
  exact htickets

end Kept

/-- the retirement that an answer tells of -/
def done? : Except Error InterruptOutcome → Option Retired
  | .ok (.dmaDone r) => some r
  | _ => none

/-- a request of a session that may change the books -/
def SessionRequest.isTransfer : SessionRequest → Bool
  | .submit .. | .simulate _ | .reset => true
  | _ => false

namespace Device

variable {ε : Type}

/-! ## What a device is made of -/

theorem build_cases {files : HostFiles} {config : Config} {engine : Option ε} {d : Device ε}
    (h : build files config engine = .ok d) :
    ∃ table bank scheduler dispatcher, config.validate = .ok () ∧ openBanks files config = .ok table ∧
      dmaBank table = .ok bank ∧ probeScheduler config bank = .ok scheduler ∧
      Dispatcher.start config.dispatchPool = .ok dispatcher ∧
      d = { config := config, table := table, ledger := { scheduler := scheduler }, dispatcher := dispatcher,
            engine := engine } := by
  obtain ⟨_, hvalid, h⟩ := exists_ok_of_bind h
  obtain ⟨table, htable, h⟩ := exists_ok_of_bind h
  obtain ⟨bank, hbank, h⟩ := exists_ok_of_bind h
  obtain ⟨scheduler, hscheduler, h⟩ := exists_ok_of_bind h
  obtain ⟨dispatcher, hdispatcher, h⟩ := exists_ok_of_bind h
  cases h
  exact ⟨table, bank, scheduler, dispatcher, hvalid, htable, hbank, hscheduler, hdispatcher, rfl⟩

/-- the device on a host: tickets and handles may have been dealt before, and a transfer takes as long as the host's
clock says -/
def onHost (tickets : TicketCounter) (completions : CompletionTable) (elapsed : Ticket → Duration) (d : Device ε) :
    Device ε :=
  { d with
    ledger := { d.ledger with tickets := tickets, completions := completions }
    elapsed := elapsed }

/-! ## Answers settle -/

theorem interruptWith_settles {kick : Start → Device ε → Device ε × EngineActivity (Except Error InterruptOutcome)}
    (irq : UInt32) (d : Device ε)
    (hk : ∀ depth < d.ledger.scheduler.pending.length, KickSettles Device.ledger done? depth kick) :
    Settles Device.ledger done? d (interruptWith kick irq d).2.1 (interruptWith kick irq d).2.2.starts
      ((interruptWith kick irq d).1 :: (interruptWith kick irq d).2.2.answers) := by
  cases hroute : d.router.route irq with
  | error e =>
    simp only [interruptWith, hroute]
    exact ⟨[], .nil _, rfl, .refl _⟩
  | ok route =>
    cases route with
    | source vector name =>
      simp only [interruptWith, hroute]
      exact ⟨[], .nil _, rfl, .refl _⟩
    | dma c =>
      simp only [interruptWith, hroute, retireWith]
      cases hd : d.ledger.retire irq with
      | error e => exact ⟨[], .nil _, rfl, .refl _⟩
      | ok p =>
        obtain ⟨done, l⟩ := p
        obtain ⟨hpend, hnext⟩ := Scheduler.pending_of_complete (TransferLedger.retire_cases hd).1
        have hkick : done.next.isSome → KickSettles Device.ledger done? l.scheduler.pending.length kick := fun hs => by
          have hne := List.length_pos_iff.2 (hnext.1 hs)
          exact hk _ (by rw [hpend, List.length_tail]; omega)
        obtain ⟨ss, hss, hset⟩ := kickOff?_settles (s := { d with ledger := l }) hkick
        simp only [hss]
        have hreply : done? (.ok (.dmaDone done.report)) = some done.report := rfl
        exact Settles.retire hd hset hreply

variable [TransferEngine ε]

theorem ledger_launch (start : Start) (d : Device ε) : (launch start d).state.ledger = d.ledger := by
  cases h : d.engine with
  | some engine => rw [launch_of_engine h]
  | none =>
    rw [launch_of_board h]
    cases d.table.onBank? d.config.mode.dmaBar start.program <;> rfl

theorem interruptWithin_settles (depth : Nat) :
    AnswerSettles Device.ledger done? depth (interruptWithin (ε := ε) depth) := by
  induction depth with
  | zero => exact fun irq d hd => interruptWith_settles irq d fun depth h => by omega
  | succ depth ih =>
    intro irq d hd
    refine interruptWith_settles irq d fun depth' h => ?_
    have hkick := kickOff_settles ledger_launch ih
    exact fun start e he => hkick start e (by omega)

theorem interrupt_settles (depth : Nat) : AnswerSettles Device.ledger done? depth (interrupt (ε := ε)) :=
  fun irq d _ => interruptWithin_settles _ irq d (Nat.le_refl _)

theorem submit_settles (r : Request) (d : Device ε) :
    ∃ ss, (submit r d).2.starts = (d.ledger.submit r).1.toList ++ ss ∧
      Settles Device.ledger done? { d with ledger := (d.ledger.submit r).2 } (submit r d).1 ss
        (submit r d).2.answers :=
  kickOff?_settles fun _ => kickOff_settles ledger_launch (interrupt_settles _)

/-! ## What a command adds to the history -/

end Device

/-- `g` is `h` with these requests made, these starts told and these retirements reported besides -/
structure History.Adds (h : History) (made : List Request) (starts : List Start) (retired : List Retired)
    (g : History) : Prop where
  created : g.created = h.created ++ made
  starts : g.starts = h.starts ++ starts
  reports : g.reports = h.reports + retired

namespace History.Adds

variable {h g k : History} {made made' : List Request} {starts starts' : List Start} {retired retired' : List Retired}

theorem refl (h : History) : h.Adds [] [] [] h := ⟨(List.append_nil _).symm, (List.append_nil _).symm, by simp⟩

theorem trans (a : h.Adds made starts retired g) (b : g.Adds made' starts' retired' k) :
    h.Adds (made ++ made') (starts ++ starts') (retired ++ retired') k where
  created := by rw [b.created, a.created, List.append_assoc]
  starts := by rw [b.starts, a.starts, List.append_assoc]
  reports := by rw [b.reports, a.reports, ← Multiset.coe_add, add_assoc]

theorem of_see (h : History) (starts : List Start) {retired retired' : List Retired} (hp : retired.Perm retired') :
    h.Adds [] starts retired' (h.see starts retired) where
  created := (List.append_nil _).symm
  starts := rfl
  reports := by
    rw [h.see_perm starts hp]
    rfl

end History.Adds

namespace Device

variable {ε : Type} [TransferEngine ε]

/-- an interrupt is a sequence of pieces of bookkeeping -/
theorem interrupt_posts (irq : UInt32) (d : Device ε) (h : History) :
    ∃ g, Relation.ReflTransGen Posts (d.ledger, h) ((d.interrupt irq).2.1.ledger, g) ∧
      h.Adds [] (d.interrupt irq).2.2.starts
        (((d.interrupt irq).2.2.answers ++ [(d.interrupt irq).1]).filterMap done?) g := by
  refine ⟨_, posts_of_settles (interrupt_settles _ irq d (Nat.le_refl _)) h, .of_see h _ ?_⟩
  exact List.Perm.filterMap done? (List.perm_append_singleton _ _).symm

/-- a submission is a sequence of pieces of bookkeeping: the request is made and handed in, then come retirements -/
theorem submit_posts (descriptor : TransferDescriptor) (cookie : Cookie) (watched : Bool) (d : Device ε)
    (h : History) :
    let made := d.ledger.newRequest descriptor cookie watched
    let o := submit made.1 { d with ledger := made.2.2 }
    ∃ g, Relation.ReflTransGen Posts (d.ledger, h) (o.1.ledger, g) ∧
      h.Adds [made.1] o.2.starts (o.2.answers.filterMap done?) g := by
  intro made o
  obtain ⟨ss, hss, hset⟩ := submit_settles made.1 { d with ledger := made.2.2 }
  have first : Posts (d.ledger, h) (made.2.2, h.make made.1) := .create d.ledger h descriptor cookie watched
  have second : Posts (made.2.2, h.make made.1) _ :=
    .submit made.2.2 (h.make made.1) (List.mem_append_right h.held (List.mem_singleton_self made.1))
  have rest := posts_of_settles hset (((h.make made.1).handIn made.1).see (made.2.2.submit made.1).1.toList [])
  refine ⟨_, (rest.head second).head first, rfl, ?_, ?_⟩
  · simp [o, History.see, History.handIn, History.make, hss]
  · simp [o, History.see, History.handIn, History.make]

/-- a request that is none of these leaves the books and the engine alone -/
theorem serve_of_not_isTransfer (s : Session) {request : SessionRequest} (h : request.isTransfer = false)
    (d : Device ε) : (serve s request d).2.1.ledger = d.ledger ∧ (serve s request d).2.2 = {} := by
  have hengine : request.drivesEngine = false := by cases request <;> first | rfl | cases h
  constructor
  · rcases serve_cases s hengine d with ⟨_, _, _, he⟩ | ⟨_, x, -, he⟩ | ⟨rfl, -⟩
    · rw [he]
    · rw [he]
      rfl
    · cases h
  · cases request <;> first | rfl | cases h

namespace Moment

omit [TransferEngine ε] in
def made? (m : Moment ε) : Option Request :=
  match m.command with
  | .session number (.submit direction system device length watched) =>
    (m.before.session? number).bind fun s =>
      if length = 0 then none
      else some (m.before.ledger.newRequest (.between direction system device length) s.id watched).1
  | _ => none

variable (m : Moment ε)

/-- the answers to interrupts, in the order they were given -/
def answers : List (Except Error InterruptOutcome) := m.steps.filterMap EngineStep.answer?

/-- the transfers that interrupts retired, in the order they were reported -/
def retired : List Retired := m.answers.filterMap done?

theorem answers_eq : m.answers = m.activity.answers ++ m.raised?.toList.map fun irq => (m.before.interrupt irq).1 := by
  simp only [answers, steps, EngineActivity.answers, List.filterMap_append, List.filterMap_map]
  cases m.raised? <;> rfl

theorem answers_of_raised?_eq_none (h : m.raised? = none) : m.answers = m.activity.answers := by
  simp [answers_eq, h]

/-- a command that neither touches the books nor drives the engine -/
theorem posts_of_quiet {m : Moment ε} (hl : m.after.ledger = m.before.ledger) (ha : m.activity = {})
    (hmade : m.made? = none) (hraised : m.raised? = none) (h : History) :
    ∃ g, Relation.ReflTransGen Posts (m.before.ledger, h) (m.after.ledger, g) ∧
      h.Adds m.made?.toList m.activity.starts m.retired g := by
  refine ⟨h, ?_, ?_⟩
  · rw [hl]
  · simp only [retired, answers_of_raised?_eq_none m hraised, ha, hmade]
    exact .refl h

theorem posts_simulate (source : UInt32) (d : Device ε) (h : History) :
    ∃ g, Relation.ReflTransGen Posts (d.ledger, h) ((d.simulate source).2.1.ledger, g) ∧
      h.Adds [] (d.simulate source).2.2.starts (((d.simulate source).2.2.answers ++
        (d.simulated? source).toList.map fun irq => (d.interrupt irq).1).filterMap done?) g := by
  unfold simulate simulated?
  cases (do d.requireSimulator "simulate_irq"; d.router.irqForSource source : Except Error UInt32) with
  | error e => exact ⟨h, .refl, .refl h⟩
  | ok irq => exact interrupt_posts irq d h

theorem posts_of_no_session {m : Moment ε} {number : Nat} {request : SessionRequest}
    (hm : m.command = .session number request) (hs : m.before.session? number = none) (h : History) :
    ∃ g, Relation.ReflTransGen Posts (m.before.ledger, h) (m.after.ledger, g) ∧
      h.Adds m.made?.toList m.activity.starts m.retired g := by
  obtain ⟨d, _⟩ := m
  cases hm
  have hstep : step (.session number request) d = (.ok .noSession, d, {}) := by simp only [step, hs]
  refine posts_of_quiet ?_ (congrArg (·.2.2) hstep) ?_ ?_ h
  · exact congrArg (·.2.1.ledger) hstep
  · cases request <;> simp [made?, hs]
  · cases request <;> simp [raised?, hs]

theorem posts_of_session {m : Moment ε} {number : Nat} {request : SessionRequest} {s : Session}
    (hm : m.command = .session number request) (hs : m.before.session? number = some s) (h : History) :
    ∃ g, Relation.ReflTransGen Posts (m.before.ledger, h) (m.after.ledger, g) ∧
      h.Adds m.made?.toList m.activity.starts m.retired g := by
  obtain ⟨d, _⟩ := m
  cases hm
  have hstep : step (.session number request) d = serve s request d := by simp only [step, hs]
  cases ht : request.isTransfer with
  | false =>
    obtain ⟨hledger, hactivity⟩ := serve_of_not_isTransfer s ht d
    refine posts_of_quiet ?_ ?_ ?_ ?_ h
    · exact (congrArg (·.2.1.ledger) hstep).trans hledger
    · exact (congrArg (·.2.2) hstep).trans hactivity
    · cases request <;> first | rfl | cases ht
    · cases request <;> first | rfl | cases ht
  | true =>
    cases request with
    | submit direction system device length watched =>
      rw [retired, answers_of_raised?_eq_none ⟨d, .session number (.submit direction system device length watched)⟩ rfl]
      simp only [after, activity, made?, hstep, hs, serve, replyWith, submitTransfer, Option.bind_some]
      by_cases hlength : length = 0
      · rw [if_pos hlength, if_pos hlength]
        exact ⟨h, .refl, .refl h⟩
      · rw [if_neg hlength, if_neg hlength]
        exact submit_posts _ _ _ d.control h
    | simulate source =>
      have hposts := posts_simulate source d.control h
      simp only [interrupt_control] at hposts
      rw [retired, answers_eq]
      simp only [after, activity, raised?, hstep, hs, serve, replyWith, simulateFor, Option.bind_some]
      exact hposts
    | reset =>
      rw [retired, answers_of_raised?_eq_none ⟨d, .session number .reset⟩ rfl]
      simp only [after, activity, made?, hstep, serve, reply, resetTransfers]
      split
      · exact ⟨h, .refl, .refl h⟩
      · refine ⟨_, .single (.reset d.ledger h), (List.append_nil _).symm, (List.append_nil _).symm, ?_⟩
        simp [History.drop]
    | _ => cases ht

/-- **A command is a sequence of pieces of bookkeeping**, and this is what it adds to the history. -/
theorem posts (h : History) :
    ∃ g, Relation.ReflTransGen Posts (m.before.ledger, h) (m.after.ledger, g) ∧
      h.Adds m.made?.toList m.activity.starts m.retired g := by
  obtain ⟨d, c⟩ := m
  cases c with
  | interrupt irq =>
    rw [retired, answers_eq]
    exact interrupt_posts irq d h
  | simulate source =>
    rw [retired, answers_eq]
    exact posts_simulate source d h
  | session number request =>
    cases hs : d.session? number with
    | none => exact posts_of_no_session rfl hs h
    | some s => exact posts_of_session rfl hs h
  | _ => exact posts_of_quiet rfl rfl rfl rfl h

end Moment

/-! ## Runs -/

/-- the requests made in a run, the starts its engine was told and the retirements it reported -/
theorem run_posts (d : Device ε) (commands : List Command) (h : History) :
    ∃ g, Relation.ReflTransGen Posts (d.ledger, h) ((d.run commands).1.ledger, g) ∧
      h.Adds ((d.moments commands).filterMap Moment.made?)
        ((d.moments commands).flatMap fun m => m.activity.starts) ((d.moments commands).flatMap Moment.retired) g := by
  induction commands using List.reverseRecOn with
  | nil => exact ⟨h, .refl, .refl h⟩
  | append_singleton commands c ih =>
    obtain ⟨g, hposts, hadds⟩ := ih
    obtain ⟨k, hposts', hadds'⟩ := Moment.posts ⟨(d.run commands).1, c⟩ g
    rw [run_snoc, moments_snoc]
    refine ⟨k, hposts.trans hposts', ?_⟩
    have hsum := hadds.trans hadds'
    simp only [List.filterMap_append, List.flatMap_append, List.flatMap_singleton]
    cases hm : (⟨(d.run commands).1, c⟩ : Moment ε).made? <;> simpa [hm] using hsum

/-- the history of a run of a device that was built, wherever it is put -/
theorem kept_run {files : HostFiles} {config : Config} {engine : Option ε} {d : Device ε}
    (hbuild : build files config engine = .ok d) (tickets : TicketCounter) (completions : CompletionTable)
    (elapsed : Ticket → Duration) (commands : List Command) :
    let moments := (d.onHost tickets completions elapsed).moments commands
    ∃ s₀ left gone h, Kept s₀ tickets completions.entries.length left gone
        (((d.onHost tickets completions elapsed).run commands).1.ledger, h) ∧
      ({} : History).Adds (moments.filterMap Moment.made?) (moments.flatMap fun m => m.activity.starts)
        (moments.flatMap Moment.retired) h := by
  intro moments
  obtain ⟨h, hposts, hadds⟩ := run_posts (d.onHost tickets completions elapsed) commands {}
  obtain ⟨table, bank, scheduler, dispatcher, -, -, -, hscheduler, -, rfl⟩ := build_cases hbuild
  obtain ⟨report, -, -, rfl⟩ := probeScheduler_cases hscheduler
  -- the books of the device are those of a new unit that has been bound
  have hfresh := Client.kept_fresh report.channels report.idle engine tickets completions
  obtain ⟨left, gone, hbound⟩ := hfresh.posts (.bind _ _ config.irqBase)
  obtain ⟨left, gone, hkept⟩ := hbound.posts_star hposts
  exact ⟨_, left, gone, h, hkept, hadds⟩

end Device
end BoardDriver
