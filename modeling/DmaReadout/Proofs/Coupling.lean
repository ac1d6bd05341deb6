import DmaReadout.Proofs.Runs

/-!
# Coupled channels

Two channels go through a program in lockstep when the program leads from related channels to
related channels, with the same result or the same error. A channel is known to most of what it
does by little: its state, and what its links have counted. Whatever relation keeps those, and is
kept by changes of the journal and by passes over the links, couples two channels through every
start, stop, reset and poll.
-/

namespace DmaReadout

variable {κ κ' α β : Type}

/-- From related channels the programs come to related channels, with the same result or the same
error. -/
def Lockstep (R : Channel κ → Channel κ' → Prop) (program : ChannelM κ α)
    (program' : ChannelM κ' α) : Prop :=
  ∀ channel channel', R channel channel' → Ensures program channel
    (fun a last => ∃ last', program' channel' = .ok a last' ∧ R last last')
    (fun e last => ∃ last', program' channel' = .error e last' ∧ R last last')

namespace Lockstep

variable {R : Channel κ → Channel κ' → Prop} {program : ChannelM κ α} {program' : ChannelM κ' α}

lemma pure (a : α) : Lockstep R (pure a) (pure a) :=
  fun _ channel' h => ⟨channel', rfl, h⟩

lemma throw (e : ReadoutError) : Lockstep R (throw e : ChannelM κ α) (throw e) :=
  fun _ channel' h => ⟨channel', rfl, h⟩

lemma modify {f : Channel κ → Channel κ} {f' : Channel κ' → Channel κ'}
    (h : ∀ channel channel', R channel channel' → R (f channel) (f' channel')) :
    Lockstep R (modify f : ChannelM κ PUnit) (modify f') :=
  fun channel channel' hr => ⟨f' channel', rfl, h channel channel' hr⟩

lemma ofExcept (result : Except ReadoutError α) :
    Lockstep R (ofExcept result) (ofExcept result) := by
  cases result with
  | ok a => exact pure a
  | error e => exact throw e

/-- The programs that follow may rely on what the first one ensures. -/
lemma bind_of_ensures {next : α → ChannelM κ β} {next' : α → ChannelM κ' β}
    {P : Channel κ → Prop} (h : Lockstep R program program')
    (hprogram : ∀ channel, Ensures program channel (fun _ last => P last) (fun _ _ => True))
    (hnext : ∀ a channel channel', R channel channel' → P channel → Ensures (next a) channel
      (fun b last => ∃ last', next' a channel' = .ok b last' ∧ R last last')
      (fun e last => ∃ last', next' a channel' = .error e last' ∧ R last last')) :
    Lockstep R (program >>= next) (program' >>= next') := by
  intro channel channel' hr
  rw [ensures_bind]
  apply ((h channel channel' hr).and (hprogram channel)).mono
  · rintro a middle ⟨⟨middle', hmiddle, hrmiddle⟩, hpmiddle⟩
    rw [bind_of_ok hmiddle]
    exact hnext a middle middle' hrmiddle hpmiddle
  · rintro e middle ⟨⟨middle', hmiddle, hrmiddle⟩, -⟩
    exact ⟨middle', bind_of_error hmiddle, hrmiddle⟩

lemma bind {next : α → ChannelM κ β} {next' : α → ChannelM κ' β}
    (h : Lockstep R program program') (hnext : ∀ a, Lockstep R (next a) (next' a)) :
    Lockstep R (program >>= next) (program' >>= next') := by
  apply h.bind_of_ensures (P := fun _ => True)
  · intro channel
    exact (ensures_failure program channel).mono (fun _ _ _ => trivial) (fun _ _ _ => trivial)
  · intro a channel channel' hr _
    exact hnext a channel channel' hr

lemma get_bind {next : Channel κ → ChannelM κ α} {next' : Channel κ' → ChannelM κ' α}
    (hnext : ∀ channel channel', R channel channel' → Lockstep R (next channel) (next' channel')) :
    Lockstep R (get >>= next) (get >>= next') :=
  fun channel channel' hr => hnext channel channel' hr channel channel' hr

lemma tryCatch {handle : ReadoutError → ChannelM κ α} {handle' : ReadoutError → ChannelM κ' α}
    (h : Lockstep R program program') (hhandle : ∀ e, Lockstep R (handle e) (handle' e)) :
    Lockstep R (tryCatch program handle) (tryCatch program' handle') := by
  intro channel channel' hr
  rw [ensures_tryCatch]
  apply (h channel channel' hr).mono
  · rintro a last ⟨last', hlast, hrlast⟩
    refine ⟨last', ?_, hrlast⟩
    change EStateM.tryCatch program' handle' channel' = _
    unfold EStateM.tryCatch
    rw [hlast]
  · rintro e middle ⟨middle', hmiddle, hrmiddle⟩
    have hcatch : MonadExcept.tryCatch program' handle' channel' = handle' e middle' := by
      change EStateM.tryCatch program' handle' channel' = _
      unfold EStateM.tryCatch
      rw [hmiddle]
      rfl
    rw [hcatch]
    exact hhandle e middle middle' hrmiddle

lemma ite {c : Prop} [Decidable c] {other : ChannelM κ α} {other' : ChannelM κ' α}
    (h : c → Lockstep R program program') (hother : Lockstep R other other') :
    Lockstep R (if c then program else other) (if c then program' else other') := by
  split
  · exact h ‹c›
  · exact hother

lemma discard (h : Lockstep R program program') :
    Lockstep R (discard program) (discard program') := by
  have hbind {κ : Type} (program : ChannelM κ α) :
      Functor.discard program = program >>= fun _ => Pure.pure PUnit.unit := by
    funext channel
    change EStateM.map (fun _ => PUnit.unit) program channel = EStateM.bind program _ channel
    unfold EStateM.map EStateM.bind
    cases program channel <;> rfl
  rw [hbind, hbind]
  exact h.bind fun _ => pure _

lemma answer_eq (h : Lockstep R program program') {channel : Channel κ} {channel' : Channel κ'}
    (hr : R channel channel') : answer program' channel' = answer program channel := by
  have hchannels := h channel channel' hr
  unfold Ensures at hchannels
  unfold answer
  cases hprogram : program channel with
  | ok a last =>
    rw [hprogram] at hchannels
    obtain ⟨last', hprogram', -⟩ := hchannels
    rw [hprogram']
  | error e last =>
    rw [hprogram] at hchannels
    obtain ⟨last', hprogram', -⟩ := hchannels
    rw [hprogram']

lemma lastState (h : Lockstep R program program') {channel : Channel κ} {channel' : Channel κ'}
    (hr : R channel channel') : R (lastState program channel) (lastState program' channel') := by
  have hlast : Ensures program channel
      (fun _ last => R last (DmaReadout.lastState program' channel'))
      (fun _ last => R last (DmaReadout.lastState program' channel')) := by
    apply (h channel channel' hr).mono
    · rintro a last ⟨last', hprogram', hrlast⟩
      rwa [DmaReadout.lastState, hprogram']
    · rintro e last ⟨last', hprogram', hrlast⟩
      rwa [DmaReadout.lastState, hprogram']
  exact hlast.of_lastState

end Lockstep

/-- What a poll and a drain look at on a link. -/
def Link.gauge (link : Link) : LinkId × UInt32 × Nat :=
  (link.id, link.counter, link.pending)

lemma Link.gauge_eq_iff {link link' : Link} :
    link'.gauge = link.gauge ↔
      link'.id = link.id ∧ link'.counter = link.counter ∧ link'.pending = link.pending := by
  rw [gauge, gauge, Prod.mk.injEq, Prod.mk.injEq]

lemma Link.arrivals_eq {link link' : Link} (h : link'.counter = link.counter) :
    link'.arrivals = link.arrivals :=
  funext fun count => congrArg (count - ·) h

/-- Related channels are in the same state, have counted the same on their links, and stay related
in all that concerns neither their cards nor single superpages. -/
structure Channel.Coupling (R : Channel κ → Channel κ' → Prop) : Prop where
  lifecycle : ∀ {channel channel'}, R channel channel' → channel'.lifecycle = channel.lifecycle
  gauges : ∀ {channel channel'}, R channel channel' →
    channel'.pipeline.links.map Link.gauge = channel.pipeline.links.map Link.gauge
  checkCapacity : ∀ {channel channel'}, R channel channel' →
    channel'.pipeline.checkCapacity = channel.pipeline.checkCapacity
  checkDrained : ∀ {channel channel'}, R channel channel' →
    channel'.pipeline.checkDrained = channel.pipeline.checkDrained
  noted : ∀ record {channel channel'}, R channel channel' →
    R { channel with journal := channel.journal.note record }
      { channel' with journal := channel'.journal.note record }
  counted : ∀ metric {channel channel'}, R channel channel' →
    R { channel with journal := channel.journal.count metric }
      { channel' with journal := channel'.journal.count metric }
  settled : ∀ lifecycle {channel channel'}, R channel channel' →
    R { channel with lifecycle } { channel' with lifecycle }
  switchedOn : ∀ {channel channel'}, R channel channel' →
    R { channel with debugModeSet := true } { channel' with debugModeSet := true }
  cleared : ∀ {channel channel'}, R channel channel' →
    R { channel with pipeline := channel.pipeline.clear }
      { channel' with pipeline := channel'.pipeline.clear }
  advance : ∀ quotas, Lockstep R (Channel.advance quotas) (Channel.advance quotas)

namespace Channel.Coupling

variable {R : Channel κ → Channel κ' → Prop}

lemma note (h : Coupling R) (record : LogRecord) :
    Lockstep R (Channel.note record) (Channel.note record) :=
  .modify fun _ _ => h.noted record

lemma count (h : Coupling R) (metric : Metric) :
    Lockstep R (Channel.count metric) (Channel.count metric) :=
  .modify fun _ _ => h.counted metric

lemma setLifecycle (h : Coupling R) (lifecycle : Lifecycle) :
    Lockstep R (Channel.setLifecycle lifecycle) (Channel.setLifecycle lifecycle) :=
  .modify fun _ _ => h.settled lifecycle

lemma transition (h : Coupling R) {kind : Transition} {during after fallback : Lifecycle}
    {action : ChannelM κ Unit} {action' : ChannelM κ' Unit} (haction : Lockstep R action action') :
    Lockstep R (Channel.transition kind during after fallback action)
      (Channel.transition kind during after fallback action') := by
  intro channel channel' hr
  have hfinish (lifecycle : Lifecycle) {last : Channel κ} {last' : Channel κ'}
      (hlast : R last last') : R
        { last with lifecycle, journal := last.journal.count (.transition kind) }
        { last' with lifecycle, journal := last'.journal.count (.transition kind) } :=
    h.counted _ (h.settled lifecycle hlast)
  rw [Channel.ensures_transition]
  apply (haction _ _ (h.settled during hr)).mono
  · rintro _ last ⟨last', hlast, hrlast⟩
    refine ⟨_, ?_, hfinish after hrlast⟩
    simp only [Channel.transition, hlast]
  · rintro e last ⟨last', hlast, hrlast⟩
    refine ⟨_, ?_, hfinish fallback hrlast⟩
    simp only [Channel.transition, hlast]

end Channel.Coupling

lemma Lockstep.access {R : Channel κ → Channel κ' → Prop} {endpoint : Endpoint κ}
    {endpoint' : Endpoint κ'} {access : Access}
    (h : Lockstep R (endpoint.perform access) (endpoint'.perform access)) :
    Lockstep R (endpoint.access access) (endpoint'.access access) := by
  apply h.bind
  intro reply
  cases reply with
  | ok reply => exact pure _
  | error fault => exact throw _

/-- The endpoint on other registers. -/
def Endpoint.on (endpoint : Endpoint κ) (registers' : Registers κ') : Endpoint κ' where
  parameters := endpoint.parameters
  registers := registers'
  buffer := endpoint.buffer

/-- An access that a channel may make: it asks for the debug mode only where that is needed. -/
def Endpoint.Makes (endpoint : Endpoint κ) (access : Access) : Prop :=
  access = .debugMode → endpoint.needsDebugMode = true

lemma Endpoint.makes_superpageCount (endpoint : Endpoint κ) (id : LinkId) :
    endpoint.Makes (.superpageCount id) := by
  intro haccess
  cases haccess

def Command.isExternalReset : Command → Bool
  | .resetExternal _ => true
  | _ => false

def Access.isExternalReset : Access → Bool
  | .write command => command.isExternalReset
  | _ => false

/-- Coupled channels on the endpoint and on the other registers stay related with every access apart
from an external reset, and with that as well if the reset of the card before it is seen as one
with it. Only some levels of a reset are of concern. -/
structure Endpoint.Coupled (endpoint : Endpoint κ) (levels : ResetLevel → Prop)
    (R : Channel κ → Channel κ' → Prop) (registers' : Registers κ') : Prop
    extends Channel.Coupling R where
  perform : ∀ access, endpoint.Makes access → access.isExternalReset = false →
    Lockstep R (endpoint.perform access) ((endpoint.on registers').perform access)
  resetWithLink : ∀ level, levels level → endpoint.parameters.family = .crorc →
    level.includesExternal = true → Lockstep R (endpoint.resetWithLink level)
      ((endpoint.on registers').resetWithLink level)

/-- The level of the reset that is a part of the operation. -/
def Operation.level? (endpoint : Endpoint κ) : Operation → Option ResetLevel
  | start => some endpoint.startLevel
  | reset level => some level
  | _ => none

namespace Endpoint.Coupled

variable {R : Channel κ → Channel κ' → Prop} {registers' : Registers κ'} {endpoint : Endpoint κ}
  {levels : ResetLevel → Prop}

lemma access (h : endpoint.Coupled levels R registers') {access : Access}
    (hmakes : endpoint.Makes access) (hreset : access.isExternalReset = false) :
    Lockstep R (endpoint.access access)
      ((endpoint.on registers').access access) :=
  (h.perform access hmakes hreset).access

lemma write (h : endpoint.Coupled levels R registers') {command : Command}
    (hreset : command.isExternalReset = false) :
    Lockstep R (endpoint.write command)
      ((endpoint.on registers').write command) :=
  h.access nofun hreset

lemma attempt (h : endpoint.Coupled levels R registers') {command : Command}
    {failed : Fault → LogRecord} (hreset : command.isExternalReset = false) :
    Lockstep R (endpoint.attempt command failed)
      ((endpoint.on registers').attempt command failed) := by
  apply (h.perform (.write command) nofun hreset).bind
  intro reply
  cases reply with
  | ok reply => exact .pure _
  | error fault => exact h.note _

lemma ensureDebugMode (h : endpoint.Coupled levels R registers') :
    Lockstep R endpoint.ensureDebugMode
      (endpoint.on registers').ensureDebugMode := by
  refine Lockstep.ite (fun hneeds => ?_) (.pure _)
  apply (h.access (fun _ => hneeds) rfl).bind
  intro enabled
  refine Lockstep.ite (fun _ => .pure _) ?_
  apply (h.write rfl).bind
  intro _
  exact .modify fun _ _ => h.switchedOn

lemma resetCard (h : endpoint.Coupled levels R registers') {level : ResetLevel}
    (hlevel : levels level) :
    Lockstep R (endpoint.resetCard level)
      ((endpoint.on registers').resetCard level) := by
  have hreset : Lockstep R
      (do
        endpoint.ensureDebugMode
        endpoint.write .resetGeneratorCounter
        endpoint.write .resetCard
        if level.includesExternal && endpoint.parameters.family = .crorc then
          endpoint.write (.resetExternal level.includesSiu)
        Channel.note (.cardReset level))
      (do
        (endpoint.on registers').ensureDebugMode
        (endpoint.on registers').write .resetGeneratorCounter
        (endpoint.on registers').write .resetCard
        if level.includesExternal && endpoint.parameters.family = .crorc then
          (endpoint.on registers').write (.resetExternal level.includesSiu)
        Channel.note (.cardReset level)) := by
    apply h.ensureDebugMode.bind
    intro _
    apply (h.write rfl).bind
    intro _
    by_cases hexternal :
        (level.includesExternal && decide (endpoint.parameters.family = .crorc)) = true
    · simp only [if_pos hexternal]
      rw [← bind_assoc, ← bind_assoc]
      rw [Bool.and_eq_true, decide_eq_true_eq] at hexternal
      exact (h.resetWithLink level hlevel hexternal.2 hexternal.1).bind fun _ => h.note _
    · simp only [if_neg hexternal]
      exact (h.write rfl).bind fun _ => h.note _
  refine Lockstep.ite (fun _ => ?_) (.pure _)
  exact .ite (fun _ => (h.note _).bind fun _ => hreset) hreset

lemma beginDataTaking (h : endpoint.Coupled levels R registers') (source : DataSource) :
    Lockstep R (endpoint.beginDataTaking source)
      ((endpoint.on registers').beginDataTaking source) := by
  apply (h.write rfl).bind
  intro _
  exact .ite (fun _ => h.write rfl) (.pure _)

lemma abandonStart (h : endpoint.Coupled levels R registers') :
    Lockstep R endpoint.abandonStart
      (endpoint.on registers').abandonStart := by
  apply (h.attempt rfl).bind
  intro _
  exact h.attempt rfl

lemma prepare (h : endpoint.Coupled levels R registers')
    (hlevel : levels endpoint.startLevel) (source : DataSource) :
    Lockstep R (endpoint.prepare source)
      ((endpoint.on registers').prepare source) := by
  have hconfigure : Lockstep R
      (do
        endpoint.ensureDebugMode
        endpoint.write (.setDataSource source)
        Channel.note (.dataSourceSelected source)
        Channel.setLifecycle .resetting
        endpoint.resetCard endpoint.startLevel
        Channel.setLifecycle .starting)
      (do
        (endpoint.on registers').ensureDebugMode
        (endpoint.on registers').write (.setDataSource source)
        Channel.note (.dataSourceSelected source)
        Channel.setLifecycle .resetting
        (endpoint.on registers').resetCard endpoint.startLevel
        Channel.setLifecycle .starting) := by
    apply h.ensureDebugMode.bind
    intro _
    apply (h.write rfl).bind
    intro _
    apply (h.note _).bind
    intro _
    apply (h.setLifecycle _).bind
    intro _
    apply (h.resetCard hlevel).bind
    intro _
    exact h.setLifecycle _
  exact .ite (fun _ => (h.write rfl).bind fun _ => hconfigure) hconfigure

lemma arm (h : endpoint.Coupled levels R registers') (source : DataSource) :
    Lockstep R (endpoint.arm source)
      ((endpoint.on registers').arm source) := by
  apply (h.write rfl).bind
  intro _
  apply Lockstep.bind
  · apply (h.beginDataTaking source).tryCatch
    intro e
    exact h.abandonStart.bind fun _ => .throw _
  · intro _
    exact h.note _

lemma configureAndArm (h : endpoint.Coupled levels R registers')
    (hlevel : levels endpoint.startLevel) :
    Lockstep R endpoint.configureAndArm
      (endpoint.on registers').configureAndArm := by
  rw [Endpoint.configureAndArm_eq, Endpoint.configureAndArm_eq]
  apply (Lockstep.ofExcept _).bind
  intro source
  apply (h.prepare hlevel source).bind
  intro _
  exact (Lockstep.modify fun _ _ => h.cleared).bind fun _ => h.arm source

lemma start (h : endpoint.Coupled levels R registers')
    (hlevel : levels endpoint.startLevel) :
    Lockstep R endpoint.start (endpoint.on registers').start := by
  apply Lockstep.get_bind
  intro channel channel' hr
  rw [h.lifecycle hr]
  cases channel.lifecycle with
  | stopped => exact h.transition (h.configureAndArm hlevel)
  | running => exact h.note _
  | starting => exact .throw _
  | stopping => exact .throw _
  | resetting => exact .throw _

lemma readArrivals (h : endpoint.Coupled levels R registers') {links links' : List Link}
    (hlinks : links'.map Link.gauge = links.map Link.gauge) :
    Lockstep R (endpoint.readArrivals links)
      ((endpoint.on registers').readArrivals links') := by
  induction links generalizing links' with
  | nil =>
    rw [List.map_nil, List.map_eq_nil_iff] at hlinks
    rw [hlinks]
    exact .pure _
  | cons link links ih =>
    obtain ⟨link', links', rfl, hgauge, hrest⟩ := List.map_eq_cons_iff.1 hlinks
    obtain ⟨hid, hcounter, hpending⟩ := Link.gauge_eq_iff.1 hgauge
    have harrivals := Link.arrivals_eq hcounter
    rw [Endpoint.readArrivals, Endpoint.readArrivals, hid, hpending, harrivals]
    apply (h.perform _ (endpoint.makes_superpageCount link.id) rfl).bind
    intro reply
    cases reply with
    | error fault => exact .pure _
    | ok hardwareCount =>
      have hread := (ih hrest).bind fun read : List Nat × Option Fault =>
        Lockstep.pure (((link.arrivals hardwareCount).toNat :: read.1, read.2))
      exact .ite (fun _ => (h.note _).bind fun _ => hread) hread

lemma drain (h : endpoint.Coupled levels R registers') :
    Lockstep R endpoint.drain (endpoint.on registers').drain := by
  apply Lockstep.get_bind
  intro channel channel' hr
  apply (h.readArrivals (h.gauges hr)).bind
  rintro ⟨arrivals, fault?⟩
  apply (h.advance _).bind
  intro moved
  cases fault? with
  | some fault => exact .throw _
  | none =>
    apply Lockstep.get_bind
    intro drained drained' hr
    rw [h.checkDrained hr]
    exact (Lockstep.ofExcept _).bind fun _ => .pure _

lemma disarmAndDrain (h : endpoint.Coupled levels R registers') :
    Lockstep R endpoint.disarmAndDrain
      (endpoint.on registers').disarmAndDrain := by
  apply (h.write rfl).bind
  intro _
  apply (h.write rfl).bind
  intro _
  apply h.drain.bind
  intro moved
  exact h.note _

lemma stop (h : endpoint.Coupled levels R registers') :
    Lockstep R endpoint.stop (endpoint.on registers').stop := by
  apply Lockstep.get_bind
  intro channel channel' hr
  rw [h.lifecycle hr]
  cases channel.lifecycle with
  | running => exact h.transition h.disarmAndDrain
  | stopped => exact h.note _
  | starting => exact .throw _
  | stopping => exact .throw _
  | resetting => exact .throw _

lemma reset (h : endpoint.Coupled levels R registers') {level : ResetLevel}
    (hlevel : levels level) :
    Lockstep R (endpoint.reset level)
      ((endpoint.on registers').reset level) := by
  refine Lockstep.ite (fun _ => ?_) (.pure _)
  apply Lockstep.get_bind
  intro channel channel' hr
  rw [h.lifecycle hr]
  refine Lockstep.ite (fun _ => ?_) (.throw _)
  apply (Lockstep.ofExcept _).bind
  intro _
  exact h.transition (h.resetCard hlevel)

lemma pollArrivals (h : endpoint.Coupled levels R registers') {links links' : List Link}
    (hlinks : links'.map Link.gauge = links.map Link.gauge) :
    Lockstep R (endpoint.pollArrivals links)
      ((endpoint.on registers').pollArrivals links') := by
  induction links generalizing links' with
  | nil =>
    rw [List.map_nil, List.map_eq_nil_iff] at hlinks
    rw [hlinks]
    exact .pure _
  | cons link links ih =>
    obtain ⟨link', links', rfl, hgauge, hrest⟩ := List.map_eq_cons_iff.1 hlinks
    obtain ⟨hid, hcounter, hpending⟩ := Link.gauge_eq_iff.1 hgauge
    have harrivals := Link.arrivals_eq hcounter
    rw [Endpoint.pollArrivals, Endpoint.pollArrivals, hid, hpending, harrivals, hcounter]
    apply (h.access (endpoint.makes_superpageCount link.id) rfl).bind
    intro hardwareCount
    refine Lockstep.ite (fun _ => ?_) ((ih hrest).bind fun _ => .pure _)
    apply (h.note _).bind
    intro _
    apply (h.count _).bind
    intro _
    exact .throw _

lemma collect (h : endpoint.Coupled levels R registers') :
    Lockstep R endpoint.collect (endpoint.on registers').collect := by
  apply Lockstep.get_bind
  intro channel channel' hr
  exact (h.pollArrivals (h.gauges hr)).bind fun _ => h.advance _

lemma fill (h : endpoint.Coupled levels R registers') :
    Lockstep R endpoint.fill (endpoint.on registers').fill := by
  apply Lockstep.get_bind
  intro channel channel' hr
  rw [h.lifecycle hr]
  exact .ite (fun _ => h.collect.discard) (.pure _)

lemma injectError (h : endpoint.Coupled levels R registers') :
    Lockstep R endpoint.injectError
      (endpoint.on registers').injectError := by
  refine Lockstep.ite (fun _ => ?_) (.pure _)
  exact (h.write rfl).bind fun _ => .pure _

/-- Pushing looks at the superpage once before it is handed over. -/
lemma push (h : endpoint.Coupled levels R registers') {superpage superpage' : Superpage}
    (hcheck : endpoint.checkSuperpage superpage' = endpoint.checkSuperpage superpage)
    (hsubmit : ∀ pages busAddress, Lockstep R (endpoint.submit superpage pages busAddress)
      ((endpoint.on registers').submit superpage' pages busAddress)) :
    Lockstep R (endpoint.push superpage) ((endpoint.on registers').push superpage') := by
  apply Lockstep.get_bind
  intro channel channel' hr
  have hcheck' : (endpoint.on registers').checkSuperpage superpage' =
      endpoint.checkSuperpage superpage := hcheck
  rw [h.lifecycle hr, h.checkCapacity hr, hcheck']
  refine Lockstep.ite (fun _ => ?_) (.throw _)
  apply (Lockstep.ofExcept _).bind
  intro _
  apply (Lockstep.ofExcept _).bind
  rintro ⟨pages, busAddress⟩
  exact (hsubmit pages busAddress).discard

/-- Closing looks at the size of the ready queue, and at who has switched the debug mode on. -/
lemma shutDown (h : endpoint.Coupled levels R registers')
    (hdebug : ∀ {channel channel'}, R channel channel' →
      channel'.debugModeSet = channel.debugModeSet)
    (hready : ∀ {channel channel'}, R channel channel' →
      channel'.pipeline.ready.length = channel.pipeline.ready.length) :
    Lockstep R endpoint.shutDown (endpoint.on registers').shutDown := by
  apply (h.attempt rfl).bind
  intro _
  apply Lockstep.get_bind
  intro channel channel' hr
  rw [hready hr, hdebug hr]
  have hrestore : Lockstep R
      (if channel.debugModeSet then endpoint.attempt (.setDebugMode false) .debugModeOffFailed
        else pure ())
      (if channel.debugModeSet then
        (endpoint.on registers').attempt (.setDebugMode false) .debugModeOffFailed
        else pure ()) :=
    .ite (fun _ => h.attempt rfl) (.pure _)
  exact .ite (fun _ => (h.note _).bind fun _ => hrestore) hrestore

end Endpoint.Coupled

end DmaReadout
