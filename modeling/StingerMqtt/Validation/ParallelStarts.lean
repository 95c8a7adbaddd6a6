import StingerMqtt.Validation.Broker

/-!
# Brokers started in parallel

The starts share one configuration file. A process reads the configuration of
its own start if no other start touches the file between the write and the read.
What a process makes of the text it reads is up to `rumqttd`, a parameter here.
-/

namespace StingerMqtt

open Kit

variable {L : PathLibrary} {configs : StartId → BrokerConfig L} {s s' : Starters L}

/-! ## Configurations and their texts -/

theorem newline_notMem_toString (n : Nat) : '\n' ∉ (toString n).toList := by
  intro h
  have hdigit : ('\n').isDigit = true := by
    apply Nat.isDigit_of_mem_toDigits (b := 10) (n := n) (by decide) (by decide)
    simpa using h
  cases hdigit

/-- The port ends at the end of its line. -/
theorem port_and_host {port port' host host' : String} (hport : '\n' ∉ port.toList)
    (hport' : '\n' ∉ port'.toList)
    (h : port ++ ("\nbind = \"" ++ host) = port' ++ ("\nbind = \"" ++ host')) :
    port = port' ∧ host = host' := by
  have hlines : ∀ port host : String, '\n' ∉ port.toList →
      splitAt '\n' (port ++ ("\nbind = \"" ++ host)) =
        port :: splitAt '\n' ("bind = \"" ++ host) := by
    intro port host hport
    exact splitAt_append hport (by simp)
  have hsame := congrArg (splitAt '\n') h
  rw [hlines port host hport, hlines port' host' hport'] at hsame
  obtain ⟨hfirst, hrest⟩ := List.cons.inj hsame
  exact ⟨hfirst, (String.append_right_inj _).mp (splitAt_injective '\n' hrest)⟩

/-- The two kinds of listener have different names. -/
theorem tcp_ne_unix (rest rest' : String) :
    "[v5.1.listeners.tcp1]\nname = \"tcp1\"\nport = " ++ rest ≠
      "[v5.1.listeners.unix1]\nname = \"unix1\"\npath = \"" ++ rest' := by
  intro h
  have hname := congrArg (fun text : String => text.toList[16]?) h
  simp at hname

/-- What a broker process listens on. -/
inductive Listener
  | tcp (host : String) (port : UInt16)
  | unix (path : String)

/-- The URI that names a listener. -/
def Listener.uri : Listener → String
  | .tcp host port => "mqtt://" ++ host ++ ":" ++ toString port.toNat
  | .unix path => "mqtt+unix://" ++ path

/-- The listener a configuration is for. -/
def BrokerConfig.listener (config : BrokerConfig L) : Listener :=
  match config.transport with
  | .tcp host port => .tcp host port
  | .unix path => .unix (L.display path)

theorem BrokerConfig.listener_uri (config : BrokerConfig L) :
    config.listener.uri = config.mqttUri := by
  unfold BrokerConfig.listener BrokerConfig.mqttUri
  cases config.transport with
  | tcp host port => rfl
  | unix path => rfl

/-- The text of a configuration tells the listener it is for. -/
theorem listener_of_configContent {config config' : BrokerConfig L}
    (h : config.configContent = config'.configContent) : config.listener = config'.listener := by
  unfold BrokerConfig.configContent at h
  rw [String.append_left_inj, String.append_right_inj] at h
  obtain ⟨transport, timeout⟩ := config
  obtain ⟨transport', timeout'⟩ := config'
  unfold BrokerConfig.listener
  unfold BrokerConfig.listenerConfig at h
  cases transport with
  | tcp host port =>
      cases transport' with
      | tcp host' port' =>
          simp only [String.append_assoc, String.append_right_inj] at h
          obtain ⟨hport, hhost⟩ := port_and_host (newline_notMem_toString _)
            (newline_notMem_toString _) h
          rw [String.append_left_inj] at hhost
          have hdigits : Nat.toDigits 10 port.toNat = Nat.toDigits 10 port'.toNat := by
            simpa using congrArg String.toList hport
          have hvalue := congrArg (fun digits => Nat.ofDigitChars 10 digits 0) hdigits
          simp only [Nat.ofDigitChars_ten_toDigits] at hvalue
          rw [UInt16.toNat_inj.mp hvalue, hhost]
      | unix path' =>
          simp only [String.append_assoc] at h
          exact absurd h (tcp_ne_unix _ _)
  | unix path =>
      cases transport' with
      | tcp host' port' =>
          simp only [String.append_assoc] at h
          exact absurd h.symm (tcp_ne_unix _ _)
      | unix path' =>
          simp only [String.append_left_inj, String.append_right_inj] at h
          exact congrArg Listener.unix h

/-! ## What a process makes of the text -/

/-- `rumqttd`: what a process listens on that has read this text as its
configuration, `none` if it refuses the text. -/
structure Rumqttd where
  listensOn : String → Option Listener

/-- A text that stands for itself between the quotes of a TOML string. -/
def PlainText (text : String) : Prop :=
  ∀ c ∈ text.toList, c ≠ '"' ∧ c ≠ '\\' ∧ (c = '\t' ∨ ' ' ≤ c) ∧ c ≠ '\x7f'

instance (text : String) : Decidable (PlainText text) :=
  inferInstanceAs (Decidable (∀ c ∈ text.toList, _))

/-- What stands between the quotes of the listener in a configuration. -/
def BrokerConfig.quoted (config : BrokerConfig L) : String :=
  match config.transport with
  | .tcp host _ => host
  | .unix path => L.display path

/-- A process that accepts a configuration listens on the listener that stands
there, if the host or path is plain. -/
def Rumqttd.Documented (R : Rumqttd) (L : PathLibrary) : Prop :=
  ∀ config : BrokerConfig L, PlainText config.quoted →
    ∀ listener, R.listensOn config.configContent = some listener → listener = config.listener

/-! ## What a step can do -/

/-- The call a step belongs to. -/
def StartLabel.call : StartLabel → StartId
  | .prepare n | .createFailed n _ | .removeFailed n _ | .write n | .writeFailed n _ _ => n
  | .spawn n | .spawnFailed n _ | .read n | .ret n => n

/-- What a step leaves at the path of the configuration file. -/
def StartLabel.leaves (configs : StartId → BrokerConfig L) (s : Starters L) :
    StartLabel → Option String
  | .prepare n => s.fileAfterPrepare (configs n)
  | .write n => some (configs n).configContent
  | .writeFailed _ _ left => left
  | _ => s.configFile

/-- `StartMove configs s l s'`: in `s` the step `l` may lead to `s'`. -/
inductive StartMove (configs : StartId → BrokerConfig L) (s : Starters L) :
    StartLabel → Starters L → Prop
  | prepare {n} : s.pcs n = .preparing →
      StartMove configs s (.prepare n)
        ({ s with configFile := s.fileAfterPrepare (configs n) }.goto n .writing)
  | failed {l : StartLabel} {text} :
      s.pcs l.call = .preparing ∨ s.pcs l.call = .writing ∨ s.pcs l.call = .spawning →
      StartMove configs s l ({ s with configFile := l.leaves configs s }.fail l.call text)
  | write {n} : s.pcs n = .writing →
      StartMove configs s (.write n)
        ({ s with configFile := some (configs n).configContent }.goto n .spawning)
  | spawn {n} : s.pcs n = .spawning → StartMove configs s (.spawn n) (s.goto n .starting)
  | read {n} : s.pcs n = .starting → s.reads n = none →
      StartMove configs s (.read n)
        { s with reads := Function.update s.reads n (some s.configFile) }
  | ret {n got} : s.pcs n = .starting → s.reads n = some got →
      StartMove configs s (.ret n) (s.goto n (.returned (.ok ⟨n, configs n⟩)))

/-- Every step is one of the listed moves. -/
theorem starters_move {l : StartLabel} (h : (starters configs).step s l s') :
    StartMove configs s l s' := by
  have h : s.advance configs l = some s' := h
  cases l with
  | prepare n =>
      cases hpc : s.pcs n <;> simp only [Starters.advance, hpc] at h <;> cases h
      exact .prepare hpc
  | createFailed n error =>
      cases hpc : s.pcs n <;> cases htransport : (configs n).transport <;>
        simp only [Starters.advance, hpc, htransport] at h <;> cases h
      exact .failed (l := .createFailed n error) (.inl hpc)
  | removeFailed n error =>
      cases hpc : s.pcs n <;> cases htransport : (configs n).transport <;>
        simp only [Starters.advance, hpc, htransport] at h <;> cases h
      exact .failed (l := .removeFailed n error) (.inl hpc)
  | write n =>
      cases hpc : s.pcs n <;> simp only [Starters.advance, hpc] at h <;> cases h
      exact .write hpc
  | writeFailed n error left =>
      cases hpc : s.pcs n <;> simp only [Starters.advance, hpc] at h <;> cases h
      exact .failed (l := .writeFailed n error left) (.inr (.inl hpc))
  | spawn n =>
      cases hpc : s.pcs n <;> simp only [Starters.advance, hpc] at h <;> cases h
      exact .spawn hpc
  | spawnFailed n error =>
      cases hpc : s.pcs n <;> simp only [Starters.advance, hpc] at h <;> cases h
      exact .failed (l := .spawnFailed n error) (.inr (.inr hpc))
  | read n =>
      cases hpc : s.pcs n <;> cases hread : s.reads n <;>
        simp only [Starters.advance, hpc, hread] at h <;> cases h
      exact .read hpc hread
  | ret n =>
      cases hpc : s.pcs n <;> cases hread : s.reads n <;>
        simp only [Starters.advance, hpc, hread] at h <;> cases h
      exact .ret hpc hread

/-! ## Which configuration a process reads -/

/-- Call `n` has written the file and its process has not read it yet. -/
def Starters.Pending (s : Starters L) (n : StartId) : Prop :=
  s.pcs n = .spawning ∨ s.pcs n = .starting ∧ s.reads n = none

/-- No call leaves another text in the file while a call is between its write
and the read of its process. -/
def Undisturbed (configs : StartId → BrokerConfig L) (s : Starters L) (l : StartLabel) : Prop :=
  ∀ n, n ≠ l.call → s.Pending n → l.leaves configs s = some (configs n).configContent

/-- The file belongs to whoever has yet to read it, and who has read it has got
the configuration of the own call. -/
structure OwnConfig (configs : StartId → BrokerConfig L) (s : Starters L) : Prop where
  pending : ∀ n, s.Pending n → s.configFile = some (configs n).configContent
  reads : ∀ n got, s.reads n = some got → got = some (configs n).configContent
  returned : ∀ n broker, s.pcs n = .returned (.ok broker) →
    broker = ⟨n, configs n⟩ ∧ s.reads n ≠ none

/-- A call goes on, without disturbing another. -/
theorem OwnConfig.goto (h : OwnConfig configs s) {l : StartLabel}
    (hundisturbed : Undisturbed configs s l) {pc : StartPc L}
    (hpending : ({ s with configFile := l.leaves configs s }.goto l.call pc).Pending l.call →
      l.leaves configs s = some (configs l.call).configContent)
    (hreturned : ∀ broker, pc = .returned (.ok broker) →
      broker = ⟨l.call, configs l.call⟩ ∧ s.reads l.call ≠ none) :
    OwnConfig configs ({ s with configFile := l.leaves configs s }.goto l.call pc) := by
  have hothers : ∀ n ≠ l.call,
      ({ s with configFile := l.leaves configs s }.goto l.call pc).pcs n = s.pcs n :=
    fun n hn => Function.update_of_ne hn ..
  constructor
  · intro n hn
    by_cases hcall : n = l.call
    · subst hcall
      exact hpending hn
    · apply hundisturbed n hcall
      unfold Starters.Pending at hn ⊢
      rwa [hothers n hcall] at hn
  · exact h.reads
  · intro n broker hn
    by_cases hcall : n = l.call
    · subst hcall
      apply hreturned broker
      rw [← hn]
      show pc = Function.update s.pcs l.call pc l.call
      rw [Function.update_self]
    · rw [hothers n hcall] at hn
      exact h.returned n broker hn

/-- A step that disturbs nobody keeps the configurations apart. -/
theorem StartMove.ownConfig {l : StartLabel} (hmove : StartMove configs s l s')
    (hundisturbed : Undisturbed configs s l) (h : OwnConfig configs s) : OwnConfig configs s' := by
  have hnot : ∀ {pc : StartPc L}, pc ≠ .spawning → pc ≠ .starting →
      ¬ ({ s with configFile := l.leaves configs s }.goto l.call pc).Pending l.call := by
    intro pc hspawning hstarting hpending
    have hpc : ({ s with configFile := l.leaves configs s }.goto l.call pc).pcs l.call = pc :=
      Function.update_self ..
    rcases hpending with hpending | ⟨hpending, -⟩
    · exact hspawning (hpc.symm.trans hpending)
    · exact hstarting (hpc.symm.trans hpending)
  cases hmove with
  | prepare hpc =>
      exact h.goto hundisturbed (fun hn => absurd hn (hnot (by simp) (by simp))) (by simp)
  | failed hpc =>
      exact h.goto hundisturbed (fun hn => absurd hn (hnot (by simp) (by simp))) (by simp)
  | write hpc => exact h.goto hundisturbed (fun _ => rfl) (by simp)
  | @spawn n hpc => exact h.goto hundisturbed (fun _ => h.pending n (.inl hpc)) (by simp)
  | @read n hpc hnone =>
      have hown := h.pending n (.inr ⟨hpc, hnone⟩)
      have hothers : ∀ n' ≠ n,
          Function.update s.reads n (some s.configFile) n' = s.reads n' :=
        fun n' hn => Function.update_of_ne hn ..
      have hunread : ∀ n', Function.update s.reads n (some s.configFile) n' = none →
          s.reads n' = none := by
        intro n' hnone
        by_cases hn : n' = n
        · subst hn
          rw [Function.update_self] at hnone
          cases hnone
        · rw [← hothers n' hn, hnone]
      constructor
      · rintro n' (hspawning | ⟨hstarting, hnone⟩)
        · exact h.pending n' (.inl hspawning)
        · exact h.pending n' (.inr ⟨hstarting, hunread n' hnone⟩)
      · intro n' got hgot
        by_cases hn : n' = n
        · subst hn
          have hgot : Function.update s.reads n' (some s.configFile) n' = some got := hgot
          rw [Function.update_self] at hgot
          obtain rfl := Option.some.inj hgot
          exact hown
        · exact h.reads n' got ((hothers n' hn).symm.trans hgot)
      · intro n' broker hreturned
        obtain ⟨hbroker, hread⟩ := h.returned n' broker hreturned
        exact ⟨hbroker, fun hnone => hread (hunread n' hnone)⟩
  | ret hpc hread =>
      refine h.goto hundisturbed (fun hn => absurd hn (hnot (by simp) (by simp))) ?_
      intro broker hbroker
      cases hbroker
      exact ⟨rfl, by simp [StartLabel.call, hread]⟩

/-- In runs in which no call disturbs another, every process reads the
configuration of the call that spawned it, and whatever the process of a started
broker with a plain host or path listens on is what the URI of the broker names. -/
theorem started_own_config {R : Rumqttd} (hR : R.Documented L) {tr : List StartLabel}
    (h : ((starters configs).guarded (Undisturbed configs)).Trace tr s) :
    (∀ n got, s.reads n = some got → got = some (configs n).configContent) ∧
    ∀ n broker, s.pcs n = .returned (.ok broker) → ∃ text,
      s.reads broker.process = some (some text) ∧
        (PlainText broker.config.quoted →
          ∀ listener, R.listensOn text = some listener → listener.uri = broker.mqttUri) := by
  have hI : ((starters configs).guarded (Undisturbed configs)).Inductive
      fun _ s => OwnConfig configs s := by
    refine ⟨?_, ?_⟩
    · rintro s ⟨configFile, rfl⟩
      constructor
      · rintro n (hpc | ⟨hpc, -⟩) <;> cases hpc
      · intro n got hgot
        cases hgot
      · intro n broker hpc
        cases hpc
    · rintro tr s l s' hown ⟨hstep, hundisturbed⟩
      exact (starters_move hstep).ownConfig hundisturbed hown
  have hown := hI.trace h
  refine ⟨hown.reads, ?_⟩
  intro n broker hpc
  obtain ⟨rfl, hread⟩ := hown.returned n broker hpc
  obtain ⟨got, hgot⟩ := Option.ne_none_iff_exists'.mp hread
  obtain rfl := hown.reads n got hgot
  refine ⟨_, hgot, ?_⟩
  intro hplain listener hlistens
  rw [hR (configs n) hplain listener hlistens]
  exact (configs n).listener_uri

/-- Paths that are strings, of which only the literal one leads to the file. -/
def stringPaths : PathLibrary where
  PathBuf := String
  display path := path
  leadsToConfig path := path == "/tmp/rumqttd_test_config.toml"

/-- Two brokers on two ports. -/
def twoPorts : StartId → BrokerConfig stringPaths
  | 0 => .tcp "127.0.0.1" 1883
  | _ => .tcp "127.0.0.1" 1884

/-- What `rumqttd` makes of the configurations of the two; it refuses any other. -/
def twoPortsRumqttd : Rumqttd where
  listensOn text :=
    if text = (twoPorts 0).configContent then some (.tcp "127.0.0.1" 1883)
    else if text = (twoPorts 1).configContent then some (.tcp "127.0.0.1" 1884)
    else none

theorem twoPortsRumqttd_documented : twoPortsRumqttd.Documented stringPaths := by
  intro config _ listener hlistens
  simp only [twoPortsRumqttd] at hlistens
  by_cases hfirst : config.configContent = (twoPorts 0).configContent
  · rw [if_pos hfirst] at hlistens
    rw [listener_of_configContent hfirst]
    exact (Option.some.inj hlistens).symm
  · rw [if_neg hfirst] at hlistens
    by_cases hsecond : config.configContent = (twoPorts 1).configContent
    · rw [if_pos hsecond] at hlistens
      rw [listener_of_configContent hsecond]
      exact (Option.some.inj hlistens).symm
    · rw [if_neg hsecond] at hlistens
      cases hlistens

theorem localhost_plain : PlainText "127.0.0.1" := by
  unfold PlainText
  simp

/-- One start alone. -/
theorem started_own_config_one :
    ∃ s, ((starters twoPorts).guarded (Undisturbed twoPorts)).Trace
        [.prepare 0, .write 0, .spawn 0, .read 0, .ret 0] s ∧
      ∃ text listener, s.reads 0 = some (some text) ∧
        twoPortsRumqttd.listensOn text = some listener ∧
        listener.uri = "mqtt://127.0.0.1:1883" := by
  have halone : ∀ (s : Starters stringPaths) (l : StartLabel), l.call = 0 →
      (∀ n ≠ 0, s.pcs n = .preparing) → Undisturbed twoPorts s l := by
    rintro s l hcall hothers n hn (hpc | ⟨hpc, -⟩)
    · cases (hothers n (hcall ▸ hn)).symm.trans hpc
    · cases (hothers n (hcall ▸ hn)).symm.trans hpc
  have hupdated : ∀ (s : Starters stringPaths) pc, (∀ n ≠ 0, s.pcs n = .preparing) →
      ∀ n ≠ 0, (s.goto 0 pc).pcs n = .preparing := by
    intro s pc hothers n hn
    rw [← hothers n hn]
    exact Function.update_of_ne hn ..
  have hnew : ∀ n ≠ 0, (Starters.new none : Starters stringPaths).pcs n = .preparing :=
    fun _ _ => rfl
  have htrace : ((starters twoPorts).guarded (Undisturbed twoPorts)).Trace
      [.prepare 0, .write 0, .spawn 0, .read 0, .ret 0] _ :=
    ⟨.new none, ⟨none, rfl⟩, .cons ⟨rfl, halone _ _ rfl hnew⟩
      (.cons ⟨rfl, halone _ _ rfl (hupdated _ _ hnew)⟩
        (.cons ⟨rfl, halone _ _ rfl (hupdated _ _ (hupdated _ _ hnew))⟩
          (.cons ⟨rfl, halone _ _ rfl (hupdated _ _ (hupdated _ _ (hupdated _ _ hnew)))⟩
            (.single ⟨rfl, halone _ _ rfl (hupdated _ _ (hupdated _ _ (hupdated _ _ hnew)))⟩))))⟩
  obtain ⟨text, hread, huri⟩ :=
    (started_own_config twoPortsRumqttd_documented htrace).2 0 ⟨0, twoPorts 0⟩ rfl
  obtain rfl : (twoPorts 0).configContent = text := Option.some.inj (Option.some.inj hread)
  have hlistens : twoPortsRumqttd.listensOn (twoPorts 0).configContent =
      some (.tcp "127.0.0.1" 1883) := by
    simp only [twoPortsRumqttd, if_true]
  exact ⟨_, htrace, _, _, hread, hlistens, huri localhost_plain _ hlistens⟩

/-- The second start writes the file before the process of the first has read
it, which then listens on the port of the second. -/
theorem started_foreign_config :
    (¬ ∀ tr s, (starters twoPorts).Trace tr s →
      ∀ n got, s.reads n = some got → got = some (twoPorts n).configContent) ∧
    ¬ ∀ tr s, (starters twoPorts).Trace tr s →
      ∀ n broker, s.pcs n = .returned (.ok broker) → ∃ text,
        s.reads broker.process = some (some text) ∧
          ∀ listener, twoPortsRumqttd.listensOn text = some listener →
            listener.uri = broker.mqttUri := by
  have htrace := Starters.runAll_trace twoPorts none
    [.prepare 0, .prepare 1, .write 0, .spawn 0, .write 1, .read 0, .ret 0] rfl
  have hother : (twoPorts 1).configContent ≠ (twoPorts 0).configContent := by
    intro htext
    have hsame := congrArg Listener.uri (listener_of_configContent htext)
    revert hsame
    decide
  refine ⟨fun hall => hother (Option.some.inj (hall _ _ htrace 0 _ rfl)), fun hall => ?_⟩
  obtain ⟨text, hread, huri⟩ := hall _ _ htrace 0 ⟨0, twoPorts 0⟩ rfl
  obtain rfl : (twoPorts 1).configContent = text := Option.some.inj (Option.some.inj hread)
  have hlistens : twoPortsRumqttd.listensOn (twoPorts 1).configContent =
      some (.tcp "127.0.0.1" 1884) := by
    simp only [twoPortsRumqttd, if_neg hother, if_true]
  have hsame := huri _ hlistens
  revert hsame
  decide

end StingerMqtt
