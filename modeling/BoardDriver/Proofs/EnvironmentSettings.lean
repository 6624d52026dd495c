/-
Which environments give settings, which settings these are, and which reason is given against the others.

Four variables are looked at. Each may be unset or hold any bytes, and bytes that are no text count as unset. What is
asked of them is a list of conditions, in the order in which they are looked at: the words have a meaning, one after the
other, and then the settings as a whole make sense. A board on the memory bus needs a base address, for which there is no
variable, so no environment leads to one.

- `Text.trim_eq_iff`, `Environment.number_eq_ok_iff`: numbers with white space around them;
- `Mode.ofName?_eq_some_iff`: words for a mode;
- `Environment.decides_setting`: one variable, read or left at the simulator's value;
- `Environment.Settles`: the settings that an environment leads to, variable by variable;
- `Environment.decides_validate`: the settings as a whole;
- `Environment.settings_decided_exactly`: settings and errors of every environment.
-/
import Mathlib.Data.List.DropRight
import BoardDriver.Config.Environment
import BoardDriver.Proofs.Numerals
import BoardDriver.Proofs.OrderedChecks

namespace BoardDriver

/-! ## White space around a text -/

namespace Text

/-- `core` is what is left of the text without the white space before it and after it -/
def Trims (text core : List Char) : Prop :=
  ∃ before after, text = before ++ core ++ after ∧ (∀ c ∈ before, isBlank c = true) ∧ (∀ c ∈ after, isBlank c = true) ∧
    (∀ c ∈ core.head?, isBlank c = false) ∧ ∀ c ∈ core.getLast?, isBlank c = false

variable {text core : List Char}

theorem trims_trim (text : List Char) : Trims text (trim text) := by
  have htrim : trim text = (text.dropWhile isBlank).rdropWhile isBlank := rfl
  have hfront : text.takeWhile isBlank ++ text.dropWhile isBlank = text := List.takeWhile_append_dropWhile
  have hback : trim text ++ (text.dropWhile isBlank).rtakeWhile isBlank = text.dropWhile isBlank :=
    List.rdropWhile_append_rtakeWhile
  refine ⟨text.takeWhile isBlank, (text.dropWhile isBlank).rtakeWhile isBlank, ?_, ?_, ?_, ?_, ?_⟩
  · rw [List.append_assoc, hback, hfront]
  · intro c hc
    exact List.mem_takeWhile_imp hc
  · intro c hc
    exact List.mem_rtakeWhile_imp hc
  · intro c hc
    have hhead : (text.dropWhile isBlank).head? = some c := by
      rw [← hback, List.head?_append, hc]
      rfl
    have hnot := List.head?_dropWhile_not isBlank text
    rw [hhead] at hnot
    exact hnot
  · intro c hc
    obtain ⟨hne, rfl⟩ := List.mem_getLast?_eq_getLast hc
    exact Bool.eq_false_iff.2 (List.rdropWhile_last_not isBlank _ hne)

/-- nothing is dropped before a character that is no white space -/
theorem dropWhile_of_head (h : ∀ c ∈ core.head?, isBlank c = false) : core.dropWhile isBlank = core := by
  cases core with
  | nil => rfl
  | cons c rest => exact List.dropWhile_cons_of_neg (by simp [h c rfl])

theorem trim_eq_iff : trim text = core ↔ Trims text core := by
  constructor
  · rintro rfl
    exact trims_trim text
  · rintro ⟨before, after, rfl, hbefore, hafter, hhead, hlast⟩
    cases core with
    | nil =>
      have hall : ∀ c ∈ before ++ [] ++ after, isBlank c = true := by simpa [or_imp, forall_and] using ⟨hbefore, hafter⟩
      rw [trim, List.dropWhile_eq_nil_iff.2 hall]
      rfl
    | cons c rest =>
      have hfront : (before ++ (c :: rest) ++ after).dropWhile isBlank = (c :: rest) ++ after := by
        rw [List.append_assoc, List.dropWhile_append_of_pos hbefore]
        exact dropWhile_of_head hhead
      have hback : ((c :: rest) ++ after).reverse.dropWhile isBlank = (c :: rest).reverse := by
        rw [List.reverse_append, List.dropWhile_append_of_pos fun d hd => hafter d (List.mem_reverse.1 hd)]
        exact dropWhile_of_head (by rwa [List.head?_reverse])
      rw [trim, hfront, hback, List.reverse_reverse]

end Text

/-! ## Words for a mode -/

namespace Mode

/-- the words for a mode, in small letters -/
def words : Mode → List String
  | simulator => ["sim", "simulator"]
  | pcie => ["pcie", "pci"]
  | membus => ["membus", "memory-bus"]
  | fvd => ["fvd"]

/-- the text is a word for the mode, in small letters or capitals -/
def Named (text : String) (m : Mode) : Prop := ∃ word ∈ m.words, Text.SameLetters text word

theorem named_iff (text : String) (m : Mode) :
    Named text m ↔ String.ofList (text.toList.map Char.toLower) ∈ m.words := by
  have hsmall : ∀ word ∈ m.words, word.toList.map Char.toLower = word.toList := by
    cases m <;> decide
  constructor
  · rintro ⟨word, hword, hsame⟩
    rw [Text.SameLetters, hsmall word hword] at hsame
    rwa [hsame, String.ofList_toList]
  · intro hword
    refine ⟨_, hword, ?_⟩
    rw [Text.SameLetters, hsmall _ hword, String.toList_ofList]

theorem ofName?_eq_some_iff (text : String) (m : Mode) : ofName? text = some m ↔ Named text m := by
  rw [named_iff]
  unfold ofName?
  split <;> cases m <;> simp_all [words]

end Mode

namespace Environment

variable {env : Environment} {name text : String} {α : Type}

/-! ## What a text says -/

/-- between white space, the text is a decimal number of 64 bits: a run of digits, after a plus sign or not -/
def IsNumber (text : String) (n : Nat) : Prop :=
  ∃ core, Text.Trims text.toList core ∧ Numeral.Written 10 core n ∧ n < 2 ^ 64

/-- the function accepts the texts that say something, with what they say, and refuses all others in one way -/
structure Reads (f : String → String → Except Error α) (Says : String → α → Prop)
    (refusal : String → String → Refusal) : Prop where
  accepts : ∀ name text a, f name text = .ok a ↔ Says text a
  refuses : ∀ name text, (∃ a, f name text = .ok a) ∨ f name text = .error (.invalidArgument (refusal name text))

theorem Reads.unique {f : String → String → Except Error α} {Says : String → α → Prop}
    {refusal : String → String → Refusal} {a b : α} (h : Reads f Says refusal) (ha : Says text a) (hb : Says text b) :
    a = b := by
  rw [← h.accepts ""] at ha hb
  exact Except.ok.inj (ha.symm.trans hb)

theorem reads_number : Reads number IsNumber .notNumber := by
  constructor
  · intro name text n
    have hparse : number name text = .ok n ↔ Numeral.parseDigits 10 UInt64.size (Text.trim text.toList) = .ok n := by
      unfold number
      split <;> simp_all
    rw [hparse, Numeral.parseDigits_eq_ok_iff (by decide) (by decide) (by decide)]
    constructor
    · rintro ⟨hwritten, hlt⟩
      exact ⟨_, Text.trims_trim _, hwritten, hlt⟩
    · rintro ⟨core, htrims, hwritten, hlt⟩
      rw [Text.trim_eq_iff.2 htrims]
      exact ⟨hwritten, hlt⟩
  · intro name text
    unfold number
    split
    · exact .inl ⟨_, rfl⟩
    · exact .inr rfl

theorem reads_mode : Reads mode Mode.Named .unknownMode := by
  constructor
  · intro name word m
    rw [← Mode.ofName?_eq_some_iff]
    unfold mode
    split <;> simp_all
  · intro name word
    unfold mode
    split
    · exact .inl ⟨_, rfl⟩
    · exact .inr rfl

/-! ## One variable -/

/-- the variable is set, to the bytes of this text -/
def Sets (env : Environment) (name text : String) : Prop := env name = some text.toUTF8

theorem text?_eq_some_iff : env.text? name = some text ↔ env.Sets name text := by
  have hbytes : ∀ bytes, String.fromUTF8? bytes = some text ↔ bytes = text.toUTF8 := by
    intro bytes
    constructor
    · intro h
      by_cases hvalid : bytes.IsValidUTF8
      · rw [String.fromUTF8?, dif_pos hvalid, Option.some.injEq] at h
        rw [← h]
        rfl
      · rw [String.fromUTF8?, dif_neg hvalid] at h
        cases h
    · rintro rfl
      have hvalid : text.toUTF8.IsValidUTF8 := text.isValidUTF8
      rw [String.fromUTF8?, dif_pos hvalid]
      rfl
  rw [text?, Option.bind_eq_some_iff, Sets]
  simp only [hbytes, exists_eq_right]

theorem Sets.unique {other : String} (h : env.Sets name text) (h' : env.Sets name other) : text = other := by
  rw [← text?_eq_some_iff] at h h'
  exact Option.some.inj (h.symm.trans h')

theorem text?_eq_none_iff : env.text? name = none ↔ ∀ text, ¬ env.Sets name text := by
  rw [Option.eq_none_iff_forall_ne_some]
  exact forall_congr' fun text => not_congr text?_eq_some_iff

/-- what a variable leads to: what its text says if it is set, and the given value if it is not -/
def Leads (env : Environment) (name : String) (Says : String → α → Prop) (unset value : α) : Prop :=
  (∀ text, env.Sets name text → Says text value) ∧ ((∀ text, ¬ env.Sets name text) → value = unset)

/-- if the variable is set, its text says something -/
def saysCondition (env : Environment) (name : String) (Says : String → α → Prop)
    (refusal : String → String → Refusal) : Condition where
  holds := ∀ text, env.Sets name text → ∃ a, Says text a
  error := .invalidArgument (refusal name ((env.text? name).getD ""))

section

variable {f : String → String → Except Error α} {Says : String → α → Prop} {refusal : String → String → Refusal}
  {unset a b : α}

theorem Leads.unique (hf : Reads f Says refusal) (ha : env.Leads name Says unset a) (hb : env.Leads name Says unset b) :
    a = b := by
  by_cases hset : ∃ text, env.Sets name text
  · obtain ⟨text, htext⟩ := hset
    exact hf.unique (ha.1 text htext) (hb.1 text htext)
  · rw [ha.2 (not_exists.1 hset), hb.2 (not_exists.1 hset)]

theorem Leads.said (h : env.Leads name Says unset a) : (saysCondition env name Says refusal).holds := by
  intro text htext
  exact ⟨a, h.1 text htext⟩

theorem decides_setting (hf : Reads f Says refusal) (env : Environment) (name : String) (unset : α) :
    Condition.Decides (env.setting name f unset) [saysCondition env name Says refusal]
      (env.Leads name Says unset) := by
  cases htext : env.text? name with
  | none =>
    have hunset := text?_eq_none_iff.1 htext
    have hsetting : env.setting name f unset = .ok unset := by rw [setting, htext]
    apply Condition.decides_one
    · intro _
      exact ⟨unset, hsetting, fun text h => absurd h (hunset text), fun _ => rfl⟩
    · intro hnot
      exact absurd (fun text h => absurd h (hunset text)) hnot
  | some text =>
    have hset := text?_eq_some_iff.1 htext
    have hsetting : env.setting name f unset = f name text := by rw [setting, htext]
    apply Condition.decides_one
    · intro hholds
      obtain ⟨a, ha⟩ := hholds text hset
      refine ⟨a, hsetting.trans ((hf.accepts name text a).2 ha), ?_, fun hunset => absurd hset (hunset text)⟩
      intro other hother
      rwa [← hset.unique hother]
    · intro hnot
      rcases hf.refuses name text with ⟨a, ha⟩ | herror
      · have hsays : Says text a := (hf.accepts name text a).1 ha
        refine absurd ?_ hnot
        intro other hother
        rw [← hset.unique hother]
        exact ⟨a, hsays⟩
      · rw [hsetting, herror, saysCondition, htext, Option.getD_some]

end

/-! ## The settings as a whole -/

/-- the variable for the mode is set, to a word for this one -/
def Asks (env : Environment) (m : Mode) : Prop := ∃ word, env.Sets modeName word ∧ Mode.Named word m

def depthCondition (env : Environment) : Condition where
  holds := ∀ text, env.Sets depthName text → ¬ IsNumber text 0
  error := .invalidArgument .emptyQueue

/-- there is an address, if the mode needs one -/
def addressCondition (env : Environment) (m : Mode) : Condition where
  holds := env.Asks m → ∃ address, env.Sets addressName address
  error := .invalidArgument (.addressNeeded m)

/-- the mode is not the one that needs a base address -/
def baseCondition (env : Environment) : Condition where
  holds := ¬ env.Asks .membus
  error := .invalidArgument .baseNeeded

def wholeConditions (env : Environment) : List Condition :=
  [depthCondition env, addressCondition env .pcie, addressCondition env .fvd, baseCondition env]

/-- all that is asked of an environment, in the order in which it is looked at -/
def conditions (env : Environment) : List Condition :=
  saysCondition env modeName Mode.Named .unknownMode ::
  saysCondition env timeoutName IsNumber .notNumber ::
  saysCondition env depthName IsNumber .notNumber ::
  wholeConditions env

/-- the settings that an environment leads to: a variable that is set decides on its own setting, and all others are
those of the simulator -/
structure Settles (env : Environment) (c : Config) : Prop where
  mode : env.Leads modeName Mode.Named Config.simulator.mode c.mode
  timeout : env.Leads timeoutName IsNumber Config.simulator.dmaTimeout c.dmaTimeout
  depth : env.Leads depthName IsNumber Config.simulator.eventDepth c.eventDepth
  address : ∀ address, c.pcieAddress = some address ↔ env.Sets addressName address
  pool : c.dispatchPool = Config.simulator.dispatchPool
  irqBase : c.irqBase = Config.simulator.irqBase
  membusBase : c.membusBase = Config.simulator.membusBase

namespace Settles

variable {c d : Config} {m : Mode}

theorem unique (hc : env.Settles c) (hd : env.Settles d) : c = d := by
  have hmode : c.mode = d.mode := hc.mode.unique reads_mode hd.mode
  have htimeout : c.dmaTimeout = d.dmaTimeout := hc.timeout.unique reads_number hd.timeout
  have hdepth : c.eventDepth = d.eventDepth := hc.depth.unique reads_number hd.depth
  have haddress : c.pcieAddress = d.pcieAddress := by
    apply Option.ext
    intro address
    exact (hc.address address).trans (hd.address address).symm
  have hpool : c.dispatchPool = d.dispatchPool := hc.pool.trans hd.pool.symm
  have hirqBase : c.irqBase = d.irqBase := hc.irqBase.trans hd.irqBase.symm
  have hmembusBase : c.membusBase = d.membusBase := hc.membusBase.trans hd.membusBase.symm
  cases c
  cases d
  simp_all

/-- any mode but the simulator's has been asked for -/
theorem asks_iff (hc : env.Settles c) (hm : m ≠ .simulator) : env.Asks m ↔ c.mode = m := by
  constructor
  · rintro ⟨word, hset, hnamed⟩
    exact reads_mode.unique (hc.mode.1 word hset) hnamed
  · rintro rfl
    by_cases hset : ∃ word, env.Sets modeName word
    · obtain ⟨word, hword⟩ := hset
      exact ⟨word, hword, hc.mode.1 word hword⟩
    · exact absurd (hc.mode.2 (not_exists.1 hset)) hm

theorem depthCondition_iff (hc : env.Settles c) : (depthCondition env).holds ↔ c.eventDepth ≠ 0 := by
  constructor
  · intro hholds hzero
    by_cases hset : ∃ text, env.Sets depthName text
    · obtain ⟨text, htext⟩ := hset
      have hnumber := hc.depth.1 text htext
      rw [hzero] at hnumber
      exact hholds text htext hnumber
    · have hdefault := hc.depth.2 (not_exists.1 hset)
      rw [hzero] at hdefault
      exact absurd hdefault (by decide)
  · intro hdepth text htext hzero
    exact hdepth (reads_number.unique (hc.depth.1 text htext) hzero)

theorem addressCondition_iff (hc : env.Settles c) (hm : m ≠ .simulator) :
    (addressCondition env m).holds ↔ (c.mode = m → c.pcieAddress ≠ none) := by
  have haddress : c.pcieAddress ≠ none ↔ ∃ address, env.Sets addressName address := by
    rw [Option.ne_none_iff_exists']
    exact exists_congr hc.address
  rw [addressCondition, hc.asks_iff hm, haddress]

theorem baseCondition_iff (hc : env.Settles c) : (baseCondition env).holds ↔ c.mode ≠ .membus := by
  rw [baseCondition, hc.asks_iff (by decide)]

end Settles

/-- the mode is one that the environment can equip: the simulator's, or that of a PCIe board with an address -/
def Equips (env : Environment) (m : Mode) : Prop :=
  m = .simulator ∨ (m = .pcie ∨ m = .fvd) ∧ ∃ address, env.Sets addressName address

/-- nothing is missing from settings that have room for events and a mode that is equipped -/
theorem Settles.whole {c : Config} (hc : env.Settles c) (hdepth : c.eventDepth ≠ 0) (hmode : env.Equips c.mode) :
    ∀ condition ∈ env.wholeConditions, condition.holds := by
  have haddress : ∀ m, m ≠ .simulator → (addressCondition env m).holds := by
    intro m hm hasks
    rcases hmode with hsimulator | ⟨-, hset⟩
    · exact absurd (hsimulator.symm.trans ((hc.asks_iff hm).1 hasks)).symm hm
    · exact hset
  have hbase : (baseCondition env).holds := by
    rw [hc.baseCondition_iff]
    rcases hmode with h | ⟨h | h, -⟩ <;> rw [h] <;> decide
  simp only [wholeConditions, List.forall_mem_cons]
  exact ⟨hc.depthCondition_iff.2 hdepth, haddress .pcie (by decide), haddress .fvd (by decide), hbase, by simp⟩

theorem decides_validate {c : Config} (hc : env.Settles c) :
    Condition.Decides c.validate env.wholeConditions fun _ => c.eventDepth ≠ 0 ∧ env.Equips c.mode := by
  have hpcie := hc.addressCondition_iff (m := .pcie) (by decide)
  have hfvd := hc.addressCondition_iff (m := .fvd) (by decide)
  have hpool : c.dispatchPool ≠ 0 := by
    rw [hc.pool]
    decide
  have hset : ∀ address, c.pcieAddress = some address → ∃ address, env.Sets addressName address := by
    intro address haddress
    exact ⟨address, (hc.address address).1 haddress⟩
  by_cases hzero : c.eventDepth = 0
  · rw [Config.validate, if_pos hzero]
    exact .here _ fun h => hc.depthCondition_iff.1 h hzero
  have hpass : ∀ m, c.mode = m → env.Equips m →
      Condition.Decides (.ok ()) env.wholeConditions fun _ => c.eventDepth ≠ 0 ∧ env.Equips m := by
    rintro _ rfl hequips
    exact ⟨hc.whole hzero hequips, hzero, hequips⟩
  have hdepth : (depthCondition env).holds := hc.depthCondition_iff.2 hzero
  rw [Config.validate, if_neg hzero, if_neg hpool]
  cases hmode : c.mode with
  | simulator => exact hpass .simulator hmode (.inl rfl)
  | pcie =>
    cases haddress : c.pcieAddress with
    | none => exact .later hdepth (.here _ fun h => hpcie.1 h hmode haddress)
    | some address => exact hpass .pcie hmode (.inr ⟨.inl rfl, hset address haddress⟩)
  | membus =>
    have hboard : (addressCondition env .pcie).holds ∧ (addressCondition env .fvd).holds := by
      simp [hpcie, hfvd, hmode]
    have hnone : c.membusBase = none := hc.membusBase
    rw [hnone]
    exact .later hdepth (.later hboard.1 (.later hboard.2 (.here [] fun h => hc.baseCondition_iff.1 h hmode)))
  | fvd =>
    have hother : (addressCondition env .pcie).holds := by
      simp [hpcie, hmode]
    cases haddress : c.pcieAddress with
    | none => exact .later hdepth (.later hother (.here _ fun h => hfvd.1 h hmode haddress))
    | some address => exact hpass .fvd hmode (.inr ⟨.inr rfl, hset address haddress⟩)

theorem decides_ofEnvironment (env : Environment) :
    Condition.Decides (Config.ofEnvironment env) env.conditions
      fun c => env.Settles c ∧ c.validate = .ok () ∧ c.eventDepth ≠ 0 ∧ env.Equips c.mode := by
  unfold Config.ofEnvironment
  change Condition.Decides _ ([_] ++ ([_] ++ ([_] ++ env.wholeConditions))) _
  apply (decides_setting reads_mode env modeName _).bind
  intro mode _ hmode
  apply (decides_setting reads_number env timeoutName _).bind
  intro timeout _ htimeout
  apply (decides_setting reads_number env depthName _).bind
  intro depth _ hdepth
  let config : Config :=
    { Config.simulator with
      mode := mode, pcieAddress := env.text? addressName, dmaTimeout := timeout, eventDepth := depth }
  have hsettles : env.Settles config :=
    { mode := hmode, timeout := htimeout, depth := hdepth, address := fun _ => text?_eq_some_iff, pool := rfl,
      irqBase := rfl, membusBase := rfl }
  change Condition.Decides (config.validate >>= fun _ => .ok config) env.wholeConditions _
  have hvalid := decides_validate hsettles
  cases hanswer : config.validate with
  | error e =>
    rw [hanswer] at hvalid
    exact hvalid
  | ok _ =>
    rw [hanswer] at hvalid
    exact ⟨hvalid.1, hsettles, hanswer, hvalid.2⟩

/-- **The environment decides on the settings, or on one reason against them.** For any bytes in the variables:
- there are settings just when each variable that is set says something, a mode by one of its words, numbers in decimal,
the queue depth is not 0, and the mode is the simulator's, or that of a PCIe board with an address; so the mode of the
memory bus is never reached;
- then each variable that is set has decided on its own setting, all others are the simulator's, and the settings are
valid;
- otherwise the error names an invalid argument, for the first condition that does not hold. -/
theorem settings_decided_exactly (env : Environment) :
    (∀ c, Config.ofEnvironment env = .ok c ↔ env.Settles c ∧ c.eventDepth ≠ 0 ∧ env.Equips c.mode) ∧
    (∀ c, Config.ofEnvironment env = .ok c → c.validate = .ok ()) ∧
    ((∃ c, Config.ofEnvironment env = .ok c) ↔ ∀ condition ∈ env.conditions, condition.holds) ∧
    (∀ e, Config.ofEnvironment env = .error e ↔ Condition.FirstFailure env.conditions e) ∧
    ∀ e, Config.ofEnvironment env = .error e → ∃ reason, e = .invalidArgument reason := by
  have hdecides := decides_ofEnvironment env
  refine ⟨?settled, ?valid, hdecides.exists_ok_iff, hdecides.eq_error_iff, ?refused⟩
  case settled =>
    intro c
    constructor
    · intro hok
      obtain ⟨hsettles, -, hrest⟩ := hdecides.of_eq_ok hok
      exact ⟨hsettles, hrest⟩
    · rintro ⟨hsettles, hdepth, hequips⟩
      have hall : ∀ condition ∈ env.conditions, condition.holds := by
        simp only [conditions, List.forall_mem_cons]
        exact ⟨hsettles.mode.said, hsettles.timeout.said, hsettles.depth.said, hsettles.whole hdepth hequips⟩
      obtain ⟨c', hok⟩ := hdecides.exists_ok_iff.2 hall
      rw [hok, hsettles.unique (hdecides.of_eq_ok hok).1]
  case valid =>
    intro c hok
    exact (hdecides.of_eq_ok hok).2.1
  case refused =>
    intro e herror
    obtain ⟨condition, hmem, rfl⟩ := ((hdecides.eq_error_iff e).1 herror).exists_mem
    simp only [conditions, wholeConditions, List.mem_cons, List.not_mem_nil, or_false] at hmem
    rcases hmem with rfl | rfl | rfl | rfl | rfl | rfl | rfl <;> exact ⟨_, rfl⟩

/-- an environment with one value for each variable, in the order mode, address, timeout, depth -/
def ofValues (mode address timeout depth : Option ByteArray) : Environment := fun name =>
  if name = modeName then mode
  else if name = addressName then address
  else if name = timeoutName then timeout
  else if name = depthName then depth
  else none

/-- a board by its other name, with room for 64 events, where the timeout is no text; and a board on the memory bus
without room for events, where the room counts first -/
theorem settings_decided_exactly_twoBoards :
    let board := ofValues (some "PCI".toUTF8) (some "0000:03:00.0".toUTF8) (some ⟨#[0xff]⟩) (some " +64 ".toUTF8)
    let bus := ofValues (some "Memory-Bus".toUTF8) none none (some "0".toUTF8)
    let settings : Config := { Config.pcie "0000:03:00.0" simulatorIrqBase with eventDepth := 64 }
    board.Settles settings ∧ board.Equips .pcie ∧ settings.validate = .ok () ∧
      (∀ condition ∈ board.conditions, condition.holds) ∧
      Condition.FirstFailure bus.conditions (.invalidArgument .emptyQueue) := by
  intro board bus settings
  obtain ⟨hsettled, hvalid, hexists, -, -⟩ := settings_decided_exactly board
  obtain ⟨-, -, -, hfirst, -⟩ := settings_decided_exactly bus
  have hok : Config.ofEnvironment board = .ok settings := by decide +kernel
  have herror : Config.ofEnvironment bus = .error (.invalidArgument .emptyQueue) := by decide +kernel
  obtain ⟨hsettles, -, hequips⟩ := (hsettled settings).1 hok
  exact ⟨hsettles, hequips, hvalid settings hok, hexists.1 ⟨settings, hok⟩, (hfirst _).1 herror⟩

end Environment
end BoardDriver
