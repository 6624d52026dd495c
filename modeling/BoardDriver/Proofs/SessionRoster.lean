/-
Who has a session open, and what a device remembers of it.

A device keeps four things that go with its sessions: the entries of its registry, the id of the next session, the
counters of sessions opened and closed, and the owner of the simulator's memory. Different commands change them, and a
session that is closed must disappear from all of them at once. The list of open sessions, on the other hand, follows
from the commands alone: `Roster.of` reads it off without looking at the device.

- `Registry.Keeps`: the same entries, each under the same name; whatever is published and however the worker is paused,
  the registry stays so;
- `Undisturbed`: a device on which no session has come or gone; what an engine does leaves it undisturbed;
- `Rostered`: the device remembers the sessions of a roster;
- `Moment.rostered_own`, `Moment.rostered_after`: each command keeps it in step with the roster;
- `sessions_in_step`: after any run of a device that was built.
-/
import BoardDriver.Proofs.InterruptCases
import BoardDriver.Proofs.RegistryHistory
import BoardDriver.Proofs.DmaDoneRouting

namespace BoardDriver

/-! ## The registry while nobody comes or goes -/

namespace Registry

variable {depth : Nat} {r r' r'' : Registry}

/-- `r'` has the entries of `r`, for sessions of the same names -/
structure Keeps (depth : Nat) (r r' : Registry) : Prop where
  enrolled : r'.Enrolled depth
  entries : r'.entries = r.entries
  length : r'.subscribers.length = r.subscribers.length

theorem Keeps.refl (h : r.Enrolled depth) : Keeps depth r r := ⟨h, rfl, rfl⟩

theorem Keeps.trans (h : Keeps depth r r') (h' : Keeps depth r' r'') : Keeps depth r r'' :=
  ⟨h'.enrolled, h'.entries.trans h.entries, h'.length.trans h.length⟩

theorem Enrolled.keeps_put (h : r.Enrolled depth) {ref : Nat} {s : Subscriber} (hs : r.subscriber? ref = some s)
    (f : Subscriber → Subscriber) (hf : ∀ s, (f s).id = s.id ∧ (f s).depth = s.depth) :
    Keeps depth r (r.put ref (f s)) := by
  have c := changes_put hs f
  refine ⟨h.of_changes c ?_, c.entries, c.length⟩
  intro n t
  by_cases hn : n = ref
  · rw [if_pos hn]
    exact hf t
  · rw [if_neg hn]
    exact ⟨rfl, rfl⟩

theorem Enrolled.keeps_publish (h : r.Enrolled depth) (e : Event) : Keeps depth r (r.publish e).2 := by
  have c := h.changes_publish e
  refine ⟨h.of_changes c ?_, c.entries, c.length⟩
  intro _ s
  exact ⟨s.offered_id _, s.offered_depth _⟩

theorem Enrolled.keeps_publishAll (h : r.Enrolled depth) (events : List Event) :
    Keeps depth r (r.publishAll events) := by
  induction events generalizing r with
  | nil => exact .refl h
  | cons e events ih =>
    have first := h.keeps_publish e
    exact first.trans (ih first.enrolled)

/-- one entry of an enrolled registry for each session that is open -/
theorem Enrolled.live_eq (h : r.Enrolled depth) : r.live = r.entries :=
  List.filter_eq_self.2 fun n hn => (h.mem_entries n).1 hn

theorem Enrolled.liveCount_eq (h : r.Enrolled depth) : r.liveCount = r.entries.length :=
  List.countP_eq_length.2 fun n hn => (h.mem_entries n).1 hn

/-- a session that is closed takes its own entry with it, and no other one -/
theorem Enrolled.entries_unregister (h : r.Enrolled depth) (hlen : r.subscribers.length ≤ 2 ^ 64) {number : Nat}
    {s : Subscriber} (hs : r.subscriber? number = some s) :
    (r.unregister s.id).2.entries = r.entries.erase number := by
  rw [h.nodup.erase_eq_filter]
  apply List.filter_congr
  intro n hn
  obtain ⟨t, ht⟩ := Option.isSome_iff_exists.1 ((h.mem_entries n).1 hn)
  have hname := h.id_eq_iff hlen hs ht
  rw [ht, Option.any_some, Bool.eq_iff_iff, bne_iff_ne, bne_iff_ne]
  exact not_congr hname

end Registry

namespace Dispatcher

variable {depth : Nat} {r : Registry}

/-- the worker publishes, and does nothing else to the registry -/
theorem keeps_workOff (h : r.Enrolled depth) (jobs : Nat) (d : Dispatcher) :
    Registry.Keeps depth r (d.workOff jobs r).2 := by
  induction jobs generalizing d r with
  | zero => exact .refl h
  | succ jobs ih =>
    rw [workOff]
    split
    · exact .refl h
    · cases hfinish : (d.take.getD d).finish r with
      | none => exact .refl h
      | some p =>
        have first : Registry.Keeps depth r p.2 := by
          unfold finish at hfinish
          split at hfinish
          · cases hfinish
          · cases hfinish
            exact h.keeps_publish _
          · cases hfinish
            exact .refl h
        exact first.trans (ih first.enrolled p.1)

theorem keeps_dispatch (h : r.Enrolled depth) (d : Dispatcher) (e : Event) :
    Registry.Keeps depth r (d.dispatch e r).2.2 :=
  keeps_workOff h _ _

theorem keeps_release (h : r.Enrolled depth) (d : Dispatcher) : Registry.Keeps depth r (d.release r).2 :=
  keeps_workOff h _ _

end Dispatcher

/-! ## Memory -/

namespace OwnedMemory

def owner? (m : OwnedMemory) : Option Cookie := m.window.map OwnedWindow.owner

/-- a window changes hands only as a whole: it goes to whoever asks for one, or stays where it is -/
theorem owner?_setup (m : OwnedMemory) (owner : Cookie) (size : Nat) :
    (m.setup owner size).2.owner? = m.owner? ∨ (m.setup owner size).2.owner? = some owner := by
  unfold setup
  split
  · exact .inl rfl
  · exact .inr rfl

theorem owner?_transfer (m : OwnedMemory) (caller : Cookie) (direction : Direction) (offset : Nat)
    (buffer : Array UInt8) : (m.transfer caller direction offset buffer).2.owner? = m.owner? := by
  change (m.exchange caller direction offset buffer).2.2.owner? = m.owner?
  unfold exchange
  cases hw : m.window with
  | none => rfl
  | some w =>
    dsimp only
    split
    · rfl
    · split
      · rfl
      · cases direction with
        | down => simp only [owner?, hw, Option.map_some]
        | up => rfl

/-- what a session owned is nobody's once it has given it up -/
theorem owner?_release (m : OwnedMemory) (owner : Cookie) :
    (m.release owner).2.owner? = if m.owner? = some owner then none else m.owner? := by
  unfold release owner?
  cases hw : m.window with
  | none => simp [hw]
  | some w => by_cases howner : w.owner = owner <;> simp [hw, howner]

end OwnedMemory

/-! ## The roster -/

/-- numbers of the sessions that are open, oldest first, and of those that were ever opened -/
structure Roster where
  members : List Nat := []
  opened : Nat := 0
  deriving DecidableEq, Repr

namespace Roster

/-- the roster after a command: a session that is opened gets the next number -/
def after (r : Roster) : Command → Roster
  | .openSession => { members := r.members ++ [r.opened], opened := r.opened + 1 }
  | .session number .close => { r with members := r.members.erase number }
  | _ => r

def of (commands : List Command) : Roster := commands.foldl after {}

theorem of_snoc (commands : List Command) (c : Command) : of (commands ++ [c]) = (of commands).after c := by
  simp only [of, List.foldl_append, List.foldl_cons, List.foldl_nil]

/-- only openings and closings change it -/
theorem after_session (r : Roster) {number : Nat} {request : SessionRequest} (h : request ≠ .close) :
    r.after (.session number request) = r := by
  cases request with
  | close => exact absurd rfl h
  | _ => rfl

theorem opened_after (r : Roster) (c : Command) :
    (r.after c).opened = r.opened + if c = .openSession then 1 else 0 := by
  cases c with
  | openSession => rfl
  | session number request => cases request <;> rfl
  | _ => rfl

theorem opened_of (commands : List Command) : (of commands).opened = commands.count .openSession := by
  induction commands using List.reverseRecOn with
  | nil => rfl
  | append_singleton commands c ih =>
    rw [of_snoc, opened_after, ih, List.count_append, List.count_singleton]
    simp only [beq_iff_eq]

end Roster

namespace Device

variable {ε : Type}

/-! ## What does not disturb the sessions -/

/-- no session has come or gone between `d` and `e`, and the memory has changed hands no more -/
structure Undisturbed (d e : Device ε) : Prop where
  registry : ∀ depth, d.registry.Enrolled depth → Registry.Keeps depth d.registry e.registry
  config : e.config = d.config
  next : e.nextSession = d.nextSession
  owner : e.memory.owner? = d.memory.owner?
  opens : e.statistics.opens = d.statistics.opens
  releases : e.statistics.releases = d.statistics.releases

namespace Undisturbed

theorem refl (d : Device ε) : Undisturbed d d := ⟨fun _ h => .refl h, rfl, rfl, rfl, rfl, rfl⟩

theorem trans {d e f : Device ε} (h : Undisturbed d e) (h' : Undisturbed e f) : Undisturbed d f where
  registry depth hd := (h.registry depth hd).trans (h'.registry depth (h.registry depth hd).enrolled)
  config := h'.config.trans h.config
  next := h'.next.trans h.next
  owner := h'.owner.trans h.owner
  opens := h'.opens.trans h.opens
  releases := h'.releases.trans h.releases

/-- counting a control operation counts no session -/
theorem control (d : Device ε) : Undisturbed d d.control := ⟨fun _ h => .refl h, rfl, rfl, rfl, rfl, rfl⟩

/-- an access of any kind to the registers -/
theorem adopt {α : Type} (d : Device ε) (o : Outcome (RegisterTable BoardBackend) α) :
    Undisturbed d (d.adopt o).2 :=
  ⟨fun _ h => h.keeps_publishAll o.events, rfl, rfl, rfl, rfl, rfl⟩

theorem tell (p : Payload) (d : Device ε) : Undisturbed d (d.tell p) :=
  ⟨fun _ h => Dispatcher.keeps_dispatch h _ _, rfl, rfl, rfl, rfl, rfl⟩

/-- counting a transfer counts no session -/
theorem account (r : Retired) (d : Device ε) : Undisturbed d (d.account r) := by
  obtain ⟨hopens, hreleases, -⟩ :=
    (d.statistics.countsOne_recordTransfer r.descriptor.direction r.descriptor.length (d.elapsed r.ticket)).rest
  have counted : Undisturbed d { d with
      statistics := d.statistics.recordTransfer r.descriptor.direction r.descriptor.length (d.elapsed r.ticket) } :=
    ⟨fun _ h => .refl h, rfl, rfl, rfl, hopens, hreleases⟩
  exact counted.trans (tell _ _)

variable [TransferEngine ε]

theorem launch (start : Start) (d : Device ε) : Undisturbed d (launch start d).state := by
  cases h : d.engine with
  | some engine =>
    rw [launch_of_engine h]
    exact ⟨fun _ hd => hd.keeps_publishAll _, rfl, rfl, rfl, rfl, rfl⟩
  | none =>
    rw [launch_of_board h]
    cases d.table.onBank? d.config.mode.dmaBar start.program with
    | none => exact refl d
    | some o => exact adopt d o

theorem replayStep (s : DeviceStep) (d : Device ε) : Undisturbed d (d.replayStep s) := by
  cases s with
  | started start result => exact launch start d
  | raised irq answer =>
    cases answer with
    | error e => exact refl d
    | ok outcome =>
      cases outcome with
      | dmaDone r => exact account r d
      | forwarded source => exact tell _ d
      | spurious => exact refl d

theorem replay (steps : List DeviceStep) (d : Device ε) : Undisturbed d (d.replay steps) := by
  induction steps generalizing d with
  | nil => exact refl d
  | cons s steps ih => exact (replayStep s d).trans (ih (d.replayStep s))

/-- whatever the engine does for a command -/
theorem own_after (m : Moment ε) : Undisturbed m.own m.after := by
  have hreplays := m.replays
  rw [Replays] at hreplays
  rw [hreplays]
  obtain ⟨hregistry, hconfig, hnext, howner, hopens, hreleases⟩ := replay m.steps m.own
  exact ⟨hregistry, hconfig, hnext, howner, hopens, hreleases⟩

end Undisturbed

/-! ## In step with a roster -/

/-- the device remembers the sessions of a roster, and nothing else -/
structure Rostered (ρ : Roster) (d : Device ε) : Prop where
  enrolled : d.registry.Enrolled d.config.eventDepth
  entries : d.registry.entries = ρ.members
  length : d.registry.subscribers.length = ρ.opened
  next : d.nextSession = UInt64.ofNat (ρ.opened + 1)
  opens : d.statistics.opens = UInt64.ofNat ρ.opened
  releases : d.statistics.releases + UInt64.ofNat ρ.members.length = UInt64.ofNat ρ.opened
  owner : ∀ id, d.memory.owner? = some id → ∃ n ∈ ρ.members, id = sessionName n

namespace Rostered

variable {ρ : Roster} {d e : Device ε}

theorem of_undisturbed (h : Rostered ρ d) (u : Undisturbed d e) : Rostered ρ e := by
  have keeps := u.registry _ h.enrolled
  refine ⟨?_, keeps.entries.trans h.entries, keeps.length.trans h.length, u.next.trans h.next, u.opens.trans h.opens,
    ?_, ?_⟩
  · rw [u.config]
    exact keeps.enrolled
  · rw [u.releases]
    exact h.releases
  · rw [u.owner]
    exact h.owner

/-- members of the roster are numbers that were given out -/
theorem lt_opened (h : Rostered ρ d) : ∀ n ∈ ρ.members, n < ρ.opened := by
  intro n hn
  rw [← h.entries, h.enrolled.mem_entries] at hn
  obtain ⟨s, hs⟩ := Option.isSome_iff_exists.1 hn
  exact h.length ▸ Registry.lt_length_of_subscriber? hs

theorem nodup (h : Rostered ρ d) : ρ.members.Nodup := h.entries ▸ h.enrolled.nodup

theorem mem_members_iff (h : Rostered ρ d) (n : Nat) :
    n ∈ ρ.members ↔ d.session? n = some { subscriber := n, id := sessionName n } := by
  rw [← h.entries, h.enrolled.mem_entries]
  constructor
  · intro hn
    obtain ⟨s, hs⟩ := Option.isSome_iff_exists.1 hn
    rw [session?, hs, Option.map_some, (h.enrolled.named n s hs).1]
  · intro hn
    obtain ⟨s, hs, -⟩ := session?_cases hn
    rw [hs]
    rfl

/-- a session is opened -/
theorem openSession (h : Rostered ρ d) : Rostered (ρ.after .openSession) d.openSession.2 := by
  have hname : (⟨d.nextSession⟩ : Cookie) = sessionName d.registry.subscribers.length := by
    rw [h.next, h.length]
    rfl
  obtain ⟨henrolled, hlength, -⟩ := h.enrolled.opened
  rw [← hname] at henrolled hlength
  refine ⟨henrolled, ?_, ?_, ?_, ?_, ?_, ?_⟩
  · change d.registry.entries ++ [d.registry.subscribers.length] = ρ.members ++ [ρ.opened]
    rw [h.entries, h.length]
  · exact hlength.trans (congrArg (· + 1) h.length)
  · change d.nextSession + 1 = UInt64.ofNat (ρ.opened + 1 + 1)
    rw [h.next, UInt64.ofNat_add (ρ.opened + 1) 1]
    rfl
  · change d.statistics.opens + 1 = UInt64.ofNat (ρ.opened + 1)
    rw [h.opens, UInt64.ofNat_add]
    rfl
  · change d.statistics.releases + UInt64.ofNat (ρ.members ++ [ρ.opened]).length = UInt64.ofNat (ρ.opened + 1)
    rw [List.length_append, List.length_singleton, UInt64.ofNat_add, UInt64.ofNat_add, ← UInt64.add_assoc, h.releases]
  · intro id hid
    obtain ⟨n, hn, hname⟩ := h.owner id hid
    exact ⟨n, List.mem_append_left _ hn, hname⟩

/-- a session is closed -/
theorem closeSession (h : Rostered ρ d) (hopened : ρ.opened ≤ 2 ^ 64) {number : Nat} {s : Session}
    (hs : d.session? number = some s) : Rostered (ρ.after (.session number .close)) (d.closeSession s) := by
  obtain ⟨t, ht, rfl⟩ := session?_cases hs
  have hlen : d.registry.subscribers.length ≤ 2 ^ 64 := h.length ▸ hopened
  have hmember : number ∈ ρ.members := by
    rw [← h.entries, h.enrolled.mem_entries, ht]
    rfl
  have hid := (h.enrolled.named number t ht).1
  obtain ⟨henrolled, hlength, -⟩ := h.enrolled.closed hlen ht
  refine ⟨henrolled, ?_, hlength.trans h.length, h.next, h.opens, ?_, ?_⟩
  · exact (h.enrolled.entries_unregister hlen ht).trans (congrArg (List.erase · number) h.entries)
  · change d.statistics.releases + 1 + UInt64.ofNat (ρ.members.erase number).length = UInt64.ofNat ρ.opened
    have hone : ρ.members.length = 1 + (ρ.members.erase number).length := by
      rw [List.length_erase_of_mem hmember]
      have hpos := List.length_pos_of_mem hmember
      omega
    rw [← h.releases, hone, UInt64.ofNat_add, ← UInt64.add_assoc]
    rfl
  · intro id howner
    have hrelease : (d.closeSession { subscriber := number, id := t.id }).memory.owner? =
        if d.memory.owner? = some t.id then none else d.memory.owner? := d.memory.owner?_release t.id
    rw [hrelease] at howner
    split at howner
    · cases howner
    · rename_i hother
      obtain ⟨n, hn, rfl⟩ := h.owner id howner
      refine ⟨n, ?_, rfl⟩
      -- the owner is another session, and so it stays on the roster
      have hne : n ≠ number := by
        rintro rfl
        exact hother (howner.trans (congrArg some hid.symm))
      exact (List.mem_erase_of_ne hne).2 hn

/-- a member of the roster may ask for memory -/
theorem setupMemory (h : Rostered ρ d) {number : Nat} {s : Session} (hs : d.session? number = some s) (size : Nat) :
    Rostered ρ (d.setupMemory s size).2 := by
  obtain ⟨t, ht, rfl⟩ := session?_cases hs
  unfold Device.setupMemory
  split
  · exact h
  refine ⟨h.enrolled, h.entries, h.length, h.next, h.opens, h.releases, ?_⟩
  intro id howner
  rcases d.memory.owner?_setup t.id size with hsame | hnew
  · exact h.owner id (hsame.symm.trans howner)
  · refine ⟨number, ?_, ?_⟩
    · rw [← h.entries, h.enrolled.mem_entries, ht]
      rfl
    · cases hnew.symm.trans howner
      exact (h.enrolled.named number t ht).1

end Rostered

variable [TransferEngine ε]

/-- every other request of a session leaves the sessions as they are -/
theorem undisturbed_serve (d : Device ε) {number : Nat} {s : Session} (hs : d.session? number = some s)
    {request : SessionRequest} (hengine : request.drivesEngine = false) (hclose : request ≠ .close)
    (hsetup : ∀ size, request ≠ .setupMemory size) : Undisturbed d (serve s request d).2.1 := by
  obtain ⟨t, ht, rfl⟩ := session?_cases hs
  have access : ∀ {α : Type} (o : Outcome (RegisterTable BoardBackend) α), Undisturbed d (d.control.adopt o).2 := by
    intro α o
    exact (Undisturbed.control d).trans (.adopt d.control o)
  have changed : ∀ (f : Subscriber → Subscriber) (statistics : Statistics),
      (∀ s, (f s).id = s.id ∧ (f s).depth = s.depth) → statistics.opens = d.statistics.opens →
      statistics.releases = d.statistics.releases →
      Undisturbed d { d with registry := d.registry.put number (f t), statistics := statistics } :=
    fun f statistics hf hopens hreleases => ⟨fun _ h => h.keeps_put ht f hf, rfl, rfl, rfl, hopens, hreleases⟩
  cases request with
  | submit | simulate => cases hengine
  | close => exact absurd rfl hclose
  | setupMemory size => exact absurd rfl (hsetup size)
  | read bar offset => exact access _
  | readRange bar offset count => exact access _
  | write bar offset value => exact access _
  | modify bar offset clear set => exact access _
  | setMode bar offset mode => exact access _
  | poll => exact ⟨fun _ h => .refl h, rfl, rfl, rfl, rfl, rfl⟩
  | setEventMask mask =>
    simp only [serve, setEventMask, modifySubscriber, control, ht]
    exact changed (fun t => { t with enableMask := mask }) _ (fun _ => ⟨rfl, rfl⟩) rfl rfl
  | setForwardingMask mask =>
    simp only [serve, setForwardingMask, modifySubscriber, control, ht]
    exact changed (fun t => { t with irqMask := mask }) _ (fun _ => ⟨rfl, rfl⟩) rfl rfl
  | dequeue =>
    simp only [serve, dequeueEvent, ht]
    exact changed (fun t => t.dequeue.2) _ (fun t => ⟨t.serve_id .dequeue, t.serve_depth .dequeue⟩) rfl rfl
  | drain =>
    simp only [serve, drainEvents, ht]
    exact changed (fun t => t.drain.2) _ (fun _ => ⟨rfl, rfl⟩) rfl rfl
  | reset =>
    simp only [serve, reply, resetTransfers]
    split
    · exact .refl d
    · exact ⟨fun _ h => .refl h, rfl, rfl, rfl, rfl, rfl⟩
  | transferMemory direction offset buffer =>
    simp only [serve, reply, transferMemory]
    split
    · exact .refl d
    · exact ⟨fun _ h => .refl h, rfl, rfl, d.memory.owner?_transfer t.id direction offset buffer, rfl, rfl⟩

/-! ## Runs -/

namespace Moment

variable {ρ : Roster} {m : Moment ε}

/-- what a command does of itself is what it does to the roster -/
theorem rostered_own (h : Rostered ρ m.before) (hopened : ρ.opened ≤ 2 ^ 64) : Rostered (ρ.after m.command) m.own := by
  obtain ⟨d, c⟩ := m
  have counted : Rostered ρ d.control := h.of_undisturbed (.control d)
  cases c with
  | openSession => exact h.openSession
  | interrupt irq => exact h
  | simulate source => exact h
  | setTracking on => exact h.of_undisturbed ⟨fun _ h => .refl h, rfl, rfl, rfl, rfl, rfl⟩
  | hold => exact h.of_undisturbed ⟨fun _ h => .refl h, rfl, rfl, rfl, rfl, rfl⟩
  | release => exact h.of_undisturbed ⟨fun _ h => Dispatcher.keeps_release h _, rfl, rfl, rfl, rfl, rfl⟩
  | session number request =>
    cases hs : d.session? number with
    | none =>
      have hown : (⟨d, .session number request⟩ : Moment ε).own = d := by
        cases request <;> simp [own, after, step, hs]
      have hstranger : number ∉ ρ.members := by
        rw [h.mem_members_iff, hs]
        rintro ⟨⟩
      have hsame : ρ.after (.session number request) = ρ := by
        by_cases hclose : request = .close
        · rw [hclose, Roster.after, List.erase_of_not_mem hstranger]
        · exact ρ.after_session hclose
      rw [hown, hsame]
      exact h
    | some s =>
      have hstep : d.step (.session number request) = serve s request d := by simp only [step, hs]
      have quiet := @undisturbed_serve _ _ d _ _ hs request
      cases request with
      | close =>
        have hown : (⟨d, .session number .close⟩ : Moment ε).own = d.closeSession s := congrArg (·.2.1) hstep
        rw [hown]
        exact h.closeSession hopened hs
      | setupMemory size =>
        have hown : (⟨d, .session number (.setupMemory size)⟩ : Moment ε).own = (d.setupMemory s size).2 :=
          congrArg (·.2.1) hstep
        rw [hown]
        exact h.setupMemory hs size
      | submit direction system device length watched =>
        simp only [own]
        split
        · exact counted
        · exact h
      | simulate source =>
        simp only [own]
        split
        · exact counted
        · exact h
      | _ =>
        have hserve := quiet rfl (by simp) (by simp)
        rw [← hstep] at hserve
        exact h.of_undisturbed hserve

/-- a command keeps the device in step with the roster, and a session that it opens is the next one -/
theorem rostered_after (h : Rostered ρ m.before) (hopened : ρ.opened ≤ 2 ^ 64) :
    Rostered (ρ.after m.command) m.after ∧
      m.opening?.toList = if m.command = .openSession then [⟨ρ.opened, sessionName ρ.opened⟩] else [] := by
  refine ⟨(rostered_own h hopened).of_undisturbed (.own_after m), ?_⟩
  obtain ⟨d, c⟩ := m
  cases c with
  | openSession =>
    have hanswer : (⟨d, .openSession⟩ : Moment ε).answer =
        .ok (.opened ⟨d.registry.subscribers.length, ⟨d.nextSession⟩⟩) := rfl
    have hlength : d.registry.subscribers.length = ρ.opened := h.length
    have hnext : d.nextSession = UInt64.ofNat (ρ.opened + 1) := h.next
    simp only [opening?, hanswer, hlength, hnext, if_true]
    rfl
  | _ => rfl

end Moment

/-- any number of commands -/
theorem rostered_run {d : Device ε} (h : Rostered {} d) (commands : List Command)
    (hopens : commands.count .openSession ≤ 2 ^ 64) :
    Rostered (Roster.of commands) (d.run commands).1 ∧
      (d.moments commands).filterMap Moment.opening? =
        (List.range (Roster.of commands).opened).map fun n => { subscriber := n, id := sessionName n } := by
  induction commands using List.reverseRecOn with
  | nil => exact ⟨h, rfl⟩
  | append_singleton commands c ih =>
    have hbefore : commands.count .openSession ≤ 2 ^ 64 := by
      rw [List.count_append] at hopens
      omega
    obtain ⟨hstate, hopenings⟩ := ih hbefore
    have hopened : (Roster.of commands).opened ≤ 2 ^ 64 := (Roster.opened_of commands).symm ▸ hbefore
    obtain ⟨hafter, hopening⟩ := Moment.rostered_after (m := ⟨(d.run commands).1, c⟩) hstate hopened
    have hone : [(⟨(d.run commands).1, c⟩ : Moment ε)].filterMap Moment.opening? =
        (⟨(d.run commands).1, c⟩ : Moment ε).opening?.toList := by
      cases hm : (⟨(d.run commands).1, c⟩ : Moment ε).opening? <;> simp [hm]
    rw [run_snoc, Roster.of_snoc, moments_snoc, List.filterMap_append, hopenings, hone, hopening, Roster.opened_after]
    refine ⟨hafter, ?_⟩
    by_cases hc : c = .openSession
    · simp only [if_pos hc, List.range_succ, List.map_append, List.map_cons, List.map_nil]
    · simp only [if_neg hc, List.append_nil, Nat.add_zero]

/-- **The registry, the sessions and the simulator's memory stay in step.** After every run of a device that was built,
with fewer than 2 ^ 64 openings in it:
- the sessions that were opened are numbered one after another, and no two of them have the same id;
- the live entries of the registry are those of the sessions that are open by now, each once, and each such session has
  the id that it was opened with;
- the count of sessions is the number of those, and so is the difference of the counters;
- a window of memory belongs to a session that is open. -/
theorem sessions_in_step {files : HostFiles} {config : Config} {engine : Option ε} {d : Device ε}
    (hbuild : build files config engine = .ok d) (tickets : TicketCounter) (completions : CompletionTable)
    (elapsed : Ticket → Duration) (commands : List Command) (hopens : commands.count .openSession < 2 ^ 64) :
    let host := d.onHost tickets completions elapsed
    let e := (host.run commands).1
    let openings := (host.moments commands).filterMap Moment.opening?
    let members := (Roster.of commands).members
    openings.map Session.subscriber = List.range (commands.count .openSession) ∧
    (openings.map Session.id).Nodup ∧
    e.registry.live = members ∧ members.Nodup ∧
    (∀ n ∈ members, ∃ s, openings[n]? = some s ∧ e.session? n = some s) ∧
    e.sessionCount = members.length ∧
    e.statistics.opens.toNat = e.statistics.releases.toNat + members.length ∧
    ∀ w, e.memory.window = some w → ∃ n ∈ members, ∃ s, openings[n]? = some s ∧ w.owner = s.id := by
  intro host e openings members
  obtain ⟨table, bank, scheduler, dispatcher, -, -, -, -, -, rfl⟩ := build_cases hbuild
  have hstart : Rostered {} host := by
    refine ⟨⟨List.nodup_nil, ?_, ?_⟩, rfl, rfl, rfl, rfl, rfl, ?_⟩
    · intro n
      exact ⟨nofun, nofun⟩
    · intro n s hs
      cases hs
    · intro id hid
      cases hid
  obtain ⟨hstate, hopenings⟩ := rostered_run hstart commands (Nat.le_of_lt hopens)
  have hopened := Roster.opened_of commands
  have hmembers : members.length ≤ commands.count .openSession := by
    rw [← hopened, ← List.length_range (n := (Roster.of commands).opened)]
    apply (hstate.nodup.subperm ?_).length_le
    intro n hn
    exact List.mem_range.2 (hstate.lt_opened n hn)
  have hget : ∀ n ∈ members, openings[n]? = some { subscriber := n, id := sessionName n } := by
    intro n hn
    rw [show openings = _ from hopenings, List.getElem?_map, List.getElem?_range (hstate.lt_opened n hn),
      Option.map_some]
  have hopens_eq : e.statistics.opens = UInt64.ofNat (commands.count .openSession) := hopened ▸ hstate.opens
  have hreleases_eq : e.statistics.releases + UInt64.ofNat members.length =
      UInt64.ofNat (commands.count .openSession) := hopened ▸ hstate.releases
  refine ⟨?_, ?_, ?_, hstate.nodup, ?_, ?_, ?_, ?_⟩
  · rw [show openings = _ from hopenings, List.map_map, hopened]
    exact List.map_id _
  · rw [show openings = _ from hopenings, List.map_map, hopened]
    refine List.nodup_range.map_on ?_
    intro m hm n hn hname
    exact sessionName_injOn (Nat.lt_trans (List.mem_range.1 hm) hopens) (Nat.lt_trans (List.mem_range.1 hn) hopens)
      hname
  · exact hstate.enrolled.live_eq.trans hstate.entries
  · intro n hn
    exact ⟨_, hget n hn, (hstate.mem_members_iff n).1 hn⟩
  · exact hstate.enrolled.liveCount_eq.trans (congrArg List.length hstate.entries)
  · have hnat := congrArg UInt64.toNat hreleases_eq
    rw [UInt64.toNat_add, UInt64.toNat_ofNat', UInt64.toNat_ofNat'] at hnat
    rw [hopens_eq, UInt64.toNat_ofNat']
    have hbound := e.statistics.releases.toNat_lt
    omega
  · intro w hw
    have howner : e.memory.owner? = some w.owner := by rw [OwnedMemory.owner?, hw, Option.map_some]
    obtain ⟨n, hn, hname⟩ := hstate.owner w.owner howner
    exact ⟨n, hn, _, hget n hn, hname⟩

def simulatorBoard : Device (RegisterBank BoardBackend) :=
  (build (fun _ => none) .simulator none).toOption.get (by decide)

theorem build_simulatorBoard : build (fun _ => none) .simulator none = .ok simulatorBoard := eq_ok_get_toOption _ _

/-- the window of memory passes from the first session to the second, then the first closes and a third one opens and
asks for what is in the window -/
def windowPassedOn : List Command :=
  [.openSession, .openSession, .session 0 (.setupMemory 16), .session 1 (.setupMemory 8), .session 0 .close,
   .openSession, .session 2 (.transferMemory .up 0 #[0])]

/-- the window stays with the second session, and the third is refused -/
theorem sessions_in_step_windowPassedOn :
    let host := simulatorBoard.onHost {} {} fun _ => ⟨0⟩
    let e := (host.run windowPassedOn).1
    e.registry.live = [1, 2] ∧ e.sessionCount = 2 ∧
    (∃ w, e.memory.window = some w ∧
      ∃ n ∈ [1, 2], ∃ s, ((host.moments windowPassedOn).filterMap Moment.opening?)[n]? = some s ∧ w.owner = s.id) ∧
    (host.run windowPassedOn).2.getLast?.map Prod.fst = some (.error (.notOwner "simulator memory")) := by
  intro host e
  obtain ⟨-, -, hlive, -, -, hcount, -, howner⟩ :=
    sessions_in_step build_simulatorBoard {} {} (fun _ => ⟨0⟩) windowPassedOn (by decide)
  obtain ⟨w, hw⟩ : ∃ w, e.memory.window = some w := Option.isSome_iff_exists.1 (by decide +kernel)
  exact ⟨hlive, hcount, ⟨w, hw, howner w hw⟩, by decide +kernel⟩

end Device
end BoardDriver
