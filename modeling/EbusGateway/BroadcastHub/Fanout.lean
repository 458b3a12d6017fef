import EbusGateway.BroadcastHub.Hub

/-! Closing and delivery. A channel is closed once and after its context, but it may be closed while a publisher
still has it in its copy.
-/
namespace EbusGateway.BroadcastHub
open Library List

variable {α : Type}

structure Registry (hub : Hub α) : Prop where
  nodup : ∀ topic, (hub.subscribers topic).Nodup
  bounded : ∀ topic, ∀ id ∈ hub.subscribers topic, id ≤ hub.nextID
  apart : ∀ id first second, id ∈ hub.subscribers first → id ∈ hub.subscribers second → first = second

structure Tracked (hub : Hub α) (acts : List (Act α)) : Prop where
  registry : Registry hub
  removing : ∀ topic id, .remove topic id ∈ acts → hub.done id = true
  closing : ∀ id, .close id ∈ acts ∨ 0 < (hub.subs id).closes →
    hub.done id = true ∧ id ≤ hub.nextID ∧ ∀ topic, id ∉ hub.subscribers topic
  once : ∀ id, (hub.subs id).closes = (hub.subs id).closeOnce.toNat

def Act.removes : Act α → Bool
  | .remove .. | .close _ => true
  | _ => false

section
variable {hub next : Hub α} {act : Act α} {acts others later : List (Act α)} {choice : Choice} {effect : Outcome α}

namespace Tracked

theorem perm (same : acts.Perm others) (tracked : Tracked hub acts) : Tracked hub others := {tracked with
  removing topic id pending := tracked.removing topic id (same.mem_iff.mpr pending)
  closing id ended := tracked.closing id (ended.imp_left same.mem_iff.mpr)}

theorem keep (tracked : Tracked hub acts) (subscribers : next.subscribers = hub.subscribers) (nextID : next.nextID = hub.nextID)
    (done : ∀ id, hub.done id = true → next.done id = true)
    (subs : ∀ id, (next.subs id).closes = (hub.subs id).closes ∧ (next.subs id).closeOnce = (hub.subs id).closeOnce)
    (removes : ∀ act ∈ later, act.removes = true → act ∈ acts) : Tracked next later where
  registry := ⟨subscribers ▸ tracked.registry.nodup,by
    rw [subscribers,nextID]; exact tracked.registry.bounded,subscribers ▸ tracked.registry.apart⟩
  removing topic id pending := done id (tracked.removing topic id (removes _ pending rfl))
  closing id ended := by
    rw [(subs id).1] at ended
    obtain ⟨ctx,bounded,gone⟩ := tracked.closing id (ended.imp_left fun pending => removes _ pending rfl)
    exact ⟨done id ctx,nextID ▸ bounded,subscribers ▸ gone⟩
  once id := by
    rw [(subs id).1,(subs id).2]
    exact tracked.once id

variable {id : Nat} {topic : Topic}

theorem mem_subscribe {other : Topic} :
    id ∈ (subscribe hub topic).shared.subscribers other ↔ id ∈ hub.subscribers other ∨ (other = topic ∧ id = hub.nextID + 1) := by
  by_cases same : other = topic
  · subst same
    simp [BroadcastHub.subscribe]
  · simp [BroadcastHub.subscribe,same]

theorem subscribe (tracked : Tracked hub acts) (topic : Topic)
    (removes : ∀ act ∈ later, act.removes = true → act ∈ acts) : Tracked (subscribe hub topic).shared later := by
  have fresh (other : Topic) : hub.nextID + 1 ∉ hub.subscribers other := fun old =>
    absurd (tracked.registry.bounded other _ old) (Nat.not_succ_le_self _)
  refine ⟨⟨fun other => ?_,fun other id mem => ?_,fun id first second one two => ?_⟩,
    fun other id due => tracked.removing other id (removes _ due rfl),fun id ended => ?_,tracked.once⟩
  · by_cases same : other = topic
    · subst same
      simpa [BroadcastHub.subscribe,nodup_append,tracked.registry.nodup] using fun id old => ne_of_mem_of_not_mem old (fresh other)
    · simpa [BroadcastHub.subscribe,same] using tracked.registry.nodup other
  · rcases mem_subscribe.mp mem with old | ⟨_,rfl⟩
    · exact Nat.le_succ_of_le (tracked.registry.bounded other id old)
    · exact Nat.le_refl _
  · rcases mem_subscribe.mp one with old | ⟨rfl,rfl⟩
    · rcases mem_subscribe.mp two with older | ⟨_,rfl⟩
      · exact tracked.registry.apart id first second old older
      · exact absurd old (fresh first)
    · rcases mem_subscribe.mp two with older | ⟨rfl,_⟩
      · exact absurd older (fresh second)
      · rfl
  · obtain ⟨ctx,bounded,gone⟩ := tracked.closing id (ended.imp_left fun due => removes _ due rfl)
    refine ⟨ctx,Nat.le_succ_of_le bounded,fun other mem => ?_⟩
    rcases mem_subscribe.mp mem with old | ⟨_,rfl⟩
    · exact gone other old
    · exact absurd bounded (Nat.not_succ_le_self _)

theorem mem_removeSubscriber (registry : Registry hub) (topic other : Topic) (id old : Nat) :
    old ∈ (removeSubscriber hub topic id).shared.subscribers other ↔ old ∈ hub.subscribers other ∧ (other = topic → old ≠ id) := by
  by_cases same : other = topic
  · subst same
    simp [removeSubscriber,(registry.nodup other).mem_erase_iff,and_comm]
  · simp [removeSubscriber,same]

theorem remove (tracked : Tracked hub (.remove topic id :: others)) :
    Tracked (removeSubscriber hub topic id).shared ((removeSubscriber hub topic id).code ++ others) := by
  have mem {other : Topic} {old : Nat} := mem_removeSubscriber tracked.registry topic other id old
  refine ⟨⟨fun other => ?_,fun other old inside => tracked.registry.bounded other old (mem.mp inside).1,
    fun old first second one two => tracked.registry.apart old first second (mem.mp one).1 (mem.mp two).1⟩,
    fun other old due => ?_,fun old ended => ?_,tracked.once⟩
  · by_cases same : other = topic
    · subst same
      simpa [removeSubscriber] using (tracked.registry.nodup other).erase id
    · simpa [removeSubscriber,same] using tracked.registry.nodup other
  · refine tracked.removing other old (mem_cons_of_mem _ ?_)
    simpa [removeSubscriber] using due
  · have known : old = id ∧ id ∈ hub.subscribers topic ∨ .close old ∈ others ∨ 0 < (hub.subs old).closes := by
      simpa [removeSubscriber,or_assoc,and_comm] using ended
    rcases known with ⟨rfl,present⟩ | rest
    · refine ⟨tracked.removing topic old mem_cons_self,tracked.registry.bounded topic old present,fun other inside => ?_⟩
      obtain ⟨still,kept⟩ := mem.mp inside
      exact kept (tracked.registry.apart old other topic still present) rfl
    · obtain ⟨ctx,bounded,gone⟩ := tracked.closing old (rest.imp_left (mem_cons_of_mem _))
      exact ⟨ctx,bounded,fun other inside => gone other (mem.mp inside).1⟩

theorem close (tracked : Tracked hub (.close id :: others)) : Tracked (hub.setSub id (hub.subs id).close) others := by
  have closes (old : Nat) : 0 < ((hub.setSub id (hub.subs id).close).subs old).closes → old = id ∨ 0 < (hub.subs old).closes := by
    by_cases same : old = id
    · exact fun _ => .inl same
    · simp [Hub.setSub,same]
  refine ⟨⟨tracked.registry.nodup,tracked.registry.bounded,tracked.registry.apart⟩,
    fun topic old due => tracked.removing topic old (.tail _ due),fun old ended => ?_,fun old => ?_⟩
  · refine tracked.closing old ?_
    rcases ended with due | closed
    · exact .inl (.tail _ due)
    · rcases closes old closed with rfl | before
      · exact .inl mem_cons_self
      · exact .inr before
  · by_cases same : old = id
    · subst same
      have before := tracked.once old
      simp only [Hub.setSub,Function.update_self,Subscriber.close]
      split
      · exact before
      next unclosed => simp [before,unclosed]
    · simpa [Hub.setSub,same] using tracked.once old

end Tracked

theorem setSub_same {β : Type} (f : Subscriber α → β) {id other : Nat} {sub : Subscriber α} (same : f sub = f (hub.subs id)) :
    f ((hub.setSub id sub).subs other) = f (hub.subs other) := by
  by_cases own : other = id
  · subst own
    simpa [Hub.setSub] using same
  · simp [Hub.setSub,own]

theorem sendTo_subs (hub : Hub α) (publisher id other : Nat) (payload : Payload α) :
    ((sendTo hub publisher id payload).subs other).closes = (hub.subs other).closes ∧
      ((sendTo hub publisher id payload).subs other).closeOnce = (hub.subs other).closeOnce := by
  unfold sendTo
  extract_lets sub
  split
  · exact ⟨rfl,rfl⟩
  split
  · exact ⟨setSub_same (·.closes) rfl,setSub_same (·.closeOnce) rfl⟩
  · exact ⟨rfl,rfl⟩

theorem sendTo_registry (hub : Hub α) (publisher id : Nat) (payload : Payload α) :
    (sendTo hub publisher id payload).subscribers = hub.subscribers ∧ (sendTo hub publisher id payload).nextID = hub.nextID ∧
      (sendTo hub publisher id payload).done = hub.done ∧ (sendTo hub publisher id payload).published = hub.published := by
  unfold sendTo
  extract_lets
  split
  · exact ⟨rfl,rfl,rfl,rfl⟩
  · split
    all_goals exact ⟨rfl,rfl,rfl,rfl⟩

theorem perform_tracked (ran : perform choice act hub = some effect) (tracked : Tracked hub (act :: others)) :
    Tracked effect.shared (effect.acts ++ others) := by
  have unchanged (id : Nat) : (hub.subs id).closes = (hub.subs id).closes ∧
    (hub.subs id).closeOnce = (hub.subs id).closeOnce := ⟨rfl,rfl⟩
  have beside {code : List (Act α)} (quiet : ∀ act ∈ code, act.removes = false) :
      ∀ due ∈ code ++ others, due.removes = true → due ∈ act :: others := by
    intro due inside removes
    rcases mem_append.mp inside with new | old
    · exact nomatch (quiet due new).symm.trans removes
    · exact mem_cons_of_mem _ old
  cases act with
  | subscribe topic =>
    cases ran
    refine tracked.subscribe topic (beside ?_)
    simp only [Effect.acts,subscribe,flatMap_nil,append_nil]
    split
    all_goals simp [Act.removes]
  | notifyChange =>
    cases ran
    exact tracked.keep rfl rfl (fun _ ctx => ctx) unchanged (beside (forall_mem_nil _))
  | await topic id =>
    cases ran
    exact tracked.keep rfl rfl (fun _ ctx => ctx) unchanged (beside (by simp [Effect.acts,Act.removes]))
  | contextDone topic id =>
    simp only [perform] at ran
    split at ran
    next ctx =>
      cases ran
      refine ⟨tracked.registry,fun other old due => ?_,fun old ended => tracked.closing old ?_,tracked.once⟩
      · rcases mem_cons.mp due with same | before
        · cases same
          exact ctx
        · exact tracked.removing other old (.tail _ before)
      · exact ended.imp_left fun due => by simpa [Effect.acts] using due
    next => cases ran
  | remove topic id =>
    cases ran
    simpa [Effect.acts,removeSubscriber] using tracked.remove
  | close id =>
    cases ran
    exact tracked.close
  | copy publisher topic payload =>
    cases ran
    exact tracked.keep rfl rfl (fun _ ctx => ctx) unchanged (beside (by simp [Effect.acts,copySubscribers,Act.removes]))
  | send publisher id payload =>
    cases ran
    obtain ⟨subscribers,nextID,done,_⟩ := sendTo_registry hub publisher id payload
    refine tracked.keep subscribers nextID (fun other ctx => ?_) (fun other => sendTo_subs hub publisher id other payload)
      (beside (forall_mem_nil _))
    rw [done]
    exact ctx

def Act.publishes : Act α → Bool
  | .copy .. | .send .. => true
  | _ => false

structure Launches (hub : Hub α) (effect : Outcome α) (name : Name) : Prop where
  subscribers : effect.shared.subscribers = hub.subscribers
  nextID : effect.shared.nextID = hub.nextID
  published : effect.shared.published = hub.published
  panicked : effect.shared.panicked = hub.panicked
  done : ∀ id, hub.done id = true → effect.shared.done id = true
  accepted : ∀ id, (effect.shared.subs id).accepted = (hub.subs id).accepted
  closes : ∀ id, (effect.shared.subs id).closes = (hub.subs id).closes ∧ (effect.shared.subs id).closeOnce = (hub.subs id).closeOnce
  forked : effect.forked = []
  starts : (name = .task ∧ (effect.code = [] ∨ ∃ topic, effect.code = [.subscribe topic])) ∨
    ∃ publisher, name = .publisher publisher ∧ (effect.code = [] ∨ ∃ topic payload, effect.code = [.copy publisher topic payload])

theorem launch_cases {event : Event α} {name : Name} (began : launch event hub = some (effect,name)) : Launches hub effect name := by
  cases event with
  | subscribe topic =>
    cases began
    exact ⟨rfl,rfl,rfl,rfl,fun _ ctx => ctx,fun _ => rfl,fun _ => ⟨rfl,rfl⟩,rfl,.inl ⟨rfl,.inr ⟨topic,rfl⟩⟩⟩
  | cancel id =>
    cases began
    refine ⟨rfl,rfl,rfl,rfl,fun other ctx => ?_,fun _ => rfl,fun _ => ⟨rfl,rfl⟩,rfl,.inl ⟨rfl,.inl rfl⟩⟩
    by_cases same : other = id
    · simp [same]
    · simpa [same] using ctx
  | publish publisher call =>
    cases began
    refine ⟨rfl,rfl,rfl,rfl,fun _ ctx => ctx,fun _ => rfl,fun _ => ⟨rfl,rfl⟩,rfl,.inr ⟨publisher,rfl,?_⟩⟩
    cases call.message with
    | none => exact .inl rfl
    | some message => exact .inr ⟨message.1,message.2,rfl⟩
  | receive id =>
    simp only [launch] at began
    obtain ⟨⟨value,rest⟩,received,equal⟩ := Option.map_eq_some_iff.mp began
    cases equal
    refine ⟨rfl,rfl,rfl,rfl,fun _ ctx => ctx,fun other => setSub_same Subscriber.accepted ?_,fun other => ?_,rfl,.inl ⟨rfl,.inl rfl⟩⟩
    · simp [Subscriber.accepted,Channel.receive_buffer received]
    · exact ⟨setSub_same (·.closes) rfl,setSub_same (·.closeOnce) rfl⟩

namespace Launches

variable {name : Name} (launches : Launches hub effect name)
include launches

theorem acts_cases :
    effect.acts = [] ∨ (∃ topic, effect.acts = [.subscribe topic]) ∨ ∃ publisher topic payload,
      effect.acts = [.copy publisher topic payload] := by
  have code : effect.acts = effect.code := by simp [Effect.acts,launches.forked]
  rw [code]
  rcases launches.starts with ⟨_,none | started⟩ | ⟨publisher,_,none | ⟨topic,payload,copies⟩⟩
  · exact .inl none
  · exact .inr (.inl started)
  · exact .inl none
  · exact .inr (.inr ⟨publisher,topic,payload,copies⟩)

theorem tracked (tracked : Tracked hub acts) : Tracked effect.shared (effect.acts ++ acts) := by
  refine tracked.keep launches.subscribers launches.nextID launches.done launches.closes fun act inside removes => ?_
  rcases mem_append.mp inside with new | old
  · rcases launches.acts_cases with none | ⟨topic,one⟩ | ⟨publisher,topic,payload,one⟩
    · rw [none] at new
      exact nomatch new
    all_goals
      rw [one] at new
      cases mem_singleton.mp new
      exact nomatch removes
  · exact old

theorem unsent (publisher id : Nat) (payload : Payload α) : .send publisher id payload ∉ effect.acts := by
  rcases launches.acts_cases with acts | ⟨topic,acts⟩ | ⟨publisher,topic,payload,acts⟩
  all_goals simp [acts]

end Launches

end

variable {system next : System α} {label : Label α}

theorem step_tracked (tracked : Tracked system.shared system.acts)
    (stepped : step system label = some next) : Tracked next.shared next.acts :=
  Machine.acts_step Tracked (fun _ _ _ same tracked => tracked.perm same)
    (fun _ _ _ _ began => (launch_cases began).tracked tracked)
    (fun _ _ _ _ _ _ _ tracked ran => perform_tracked ran tracked) tracked stepped

theorem initially_tracked : Tracked (initially α).shared (initially α).acts where
  registry := ⟨fun _ => nodup_nil,fun _ _ mem => (nomatch mem),fun _ _ _ mem => (nomatch mem)⟩
  removing _ _ pending := nomatch pending
  closing _ ended := ended.elim (nomatch ·) (nomatch ·)
  once _ := rfl

def Act.target : Act α → Option Nat
  | .send _ id _ => some id
  | _ => none

def unused (system : System α) (id : Nat) : Bool := system.acts.all (·.target != some id)

def closesUnused (system : System α) (label : Label α) : Prop :=
  (match system.performs label with
    | some (.close id) => unused system id
    | _ => true) = true

instance (system : System α) (label : Label α) : Decidable (closesUnused system label) := inferInstanceAs (Decidable (_ = true))

theorem unused_unsent {id : Nat} (closes : system.performs label = some (.close id))
    (allowed : closesUnused system label) (publisher : Nat) (payload : Payload α) : .send publisher id payload ∉ system.acts := by
  intro due
  unfold closesUnused at allowed
  rw [closes] at allowed
  simpa [Act.target] using all_eq_true.mp allowed _ due

structure Unpanicked (hub : Hub α) (acts : List (Act α)) : Prop where
  tracked : Tracked hub acts
  alive : hub.panicked = false
  unsent : ∀ publisher id payload, .send publisher id payload ∈ acts → (hub.subs id).closes = 0

section
variable {hub next : Hub α} {act : Act α} {acts others later : List (Act α)} {choice : Choice} {effect : Outcome α}

theorem copySubscribers_code (choice : Choice) (hub : Hub α) (publisher : Nat) (topic : Topic) (payload : Payload α) :
    ∃ list : List Nat, list.Perm (hub.subscribers topic) ∧
      (copySubscribers choice hub publisher topic payload).code = list.map (.send publisher · payload) := by
  unfold copySubscribers
  extract_lets subscribers list
  refine ⟨list,?_,rfl⟩
  simp only [list]
  split
  next ordered => exact isPerm_iff.mp ordered
  next => exact .refl _

theorem perform_unpanicked (ran : perform choice act hub = some effect) (safe : Unpanicked hub (act :: others))
    (unused : ∀ id, act = .close id → ∀ publisher payload, .send publisher id payload ∉ act :: others) :
    Unpanicked effect.shared (effect.acts ++ others) := by
  have tracked := perform_tracked ran safe.tracked
  have old {publisher id : Nat} {payload : Payload α} (due : .send publisher id payload ∈ others) : (hub.subs id).closes = 0 :=
    safe.unsent publisher id payload (.tail _ due)
  cases act with
  | subscribe | notifyChange | await | contextDone | remove =>
    simp only [perform] at ran
    repeat' split at ran
    all_goals cases ran
    all_goals
      refine ⟨tracked,safe.alive,fun publisher id payload due => old (?_ : .send publisher id payload ∈ others)⟩
      simpa [Effect.acts,subscribe,removeSubscriber] using due
  | close id =>
    cases ran
    refine ⟨tracked,safe.alive,fun publisher other payload due => ?_⟩
    have apart : other ≠ id := fun same => unused id rfl publisher payload (mem_cons_of_mem _ (same ▸ due))
    simpa [Hub.setSub,apart] using old due
  | copy publisher topic payload =>
    cases ran
    refine ⟨tracked,safe.alive,fun other id value due => ?_⟩
    rcases mem_append.mp due with new | before
    · obtain ⟨list,ordered,code⟩ := copySubscribers_code choice hub publisher topic payload
      change _ ∈ (copySubscribers choice hub publisher topic payload).code ++ [] at new
      rw [append_nil,code] at new
      obtain ⟨target,inside,equal⟩ := mem_map.mp new
      cases equal
      refine Nat.eq_zero_of_not_pos fun closed => ?_
      exact (safe.tracked.closing id (.inr closed)).2.2 topic (ordered.mem_iff.mp inside)
    · exact old before
  | send publisher id payload =>
    cases ran
    have open_ := safe.unsent publisher id payload mem_cons_self
    refine ⟨tracked,?_,fun other target value due => ?_⟩
    · unfold sendTo
      extract_lets sub
      rw [if_neg (by simp [sub,open_])]
      split
      all_goals exact safe.alive
    · rw [(sendTo_subs hub publisher id target payload).1]
      exact old due

end

theorem step_unpanicked (safe : Unpanicked system.shared system.acts)
    (allowed : closesUnused system label) (stepped : step system label = some next) : Unpanicked next.shared next.acts := by
  refine Machine.acts_step Unpanicked (fun _ _ _ same safe => ⟨safe.tracked.perm same,safe.alive,fun publisher id payload due =>
    safe.unsent publisher id payload (same.mem_iff.mpr due)⟩) ?_ ?_ safe stepped
  · intro event effect name _ began
    have launches := launch_cases began
    refine ⟨launches.tracked safe.tracked,launches.panicked.trans safe.alive,fun publisher id payload due => ?_⟩
    rw [(launches.closes id).1]
    exact safe.unsent publisher id payload ((mem_append.mp due).resolve_left (launches.unsent publisher id payload))
  · intro choice act others effect _ performs same safe ran
    refine perform_unpanicked ran safe fun id closes publisher payload due => ?_
    exact unused_unsent (performs.trans (congrArg some closes)) allowed publisher payload (same.mem_iff.mpr due)

variable (hub : Hub α)

def Hub.taken (publisher id : Nat) : List (Payload α) :=
  ((hub.subs id).accepted.filter (·.1 = publisher)).map (·.2)

def Hub.publishedFor (publisher id : Nat) : List (Payload α) :=
  (hub.published.filter fun publication => publication.publisher = publisher && publication.subscribed.contains id).map (·.payload)

def sendsTo (id : Nat) (code : List (Act α)) : List (Payload α) :=
  code.filterMap fun
    | .send _ target payload => if target = id then some payload else none
    | _ => none

def shape (name : Name) (code : List (Act α)) : Prop :=
  match name with
  | .publisher publisher =>
    (∃ topic payload, code = [.copy publisher topic payload]) ∨
      (∀ act ∈ code, ∃ id payload, act = .send publisher id payload) ∧
        ∀ id, (hub.taken publisher id ++ sendsTo id code).Sublist (hub.publishedFor publisher id)
  | .task => ∀ act ∈ code, act.publishes = false

def Ordered : Prop := ∀ publisher id, (hub.taken publisher id).Sublist (hub.publishedFor publisher id)

section
variable {hub next : Hub α} {act : Act α} {choice : Choice} {effect : Outcome α} {name : Name} {code : List (Act α)} {publisher : Nat}

def Undisturbed (hub next : Hub α) (publisher : Nat) : Prop :=
  ∀ id, next.taken publisher id = hub.taken publisher id ∧ next.publishedFor publisher id = hub.publishedFor publisher id

theorem Ordered.frame (ordered : Ordered hub) (same : ∀ publisher, Undisturbed hub next publisher) : Ordered next := by
  intro publisher id
  rw [(same publisher id).1,(same publisher id).2]
  exact ordered publisher id

theorem shape_frame (shaped : shape hub name code)
    (same : ∀ publisher, name = .publisher publisher → Undisturbed hub next publisher) : shape next name code := by
  cases name with
  | task => exact shaped
  | publisher publisher =>
    refine shaped.imp_right fun ⟨sends,ordered⟩ => ⟨sends,fun id => ?_⟩
    rw [(same publisher rfl id).1,(same publisher rfl id).2]
    exact ordered id

theorem taken_congr {id : Nat} (same : (next.subs id).accepted = (hub.subs id).accepted) :
    next.taken publisher id = hub.taken publisher id := by
  unfold Hub.taken
  rw [same]

theorem publishedFor_congr {id : Nat} (same : next.published = hub.published) :
    next.publishedFor publisher id = hub.publishedFor publisher id := by
  unfold Hub.publishedFor
  rw [same]

theorem undisturbed (accepted : ∀ id, (next.subs id).accepted = (hub.subs id).accepted) (shown : next.published = hub.published)
    (publisher : Nat) : Undisturbed hub next publisher := fun id => ⟨taken_congr (accepted id),publishedFor_congr shown⟩

theorem perform_quiet (ran : perform choice act hub = some effect) (quiet : act.publishes = false) :
    (∀ id, (effect.shared.subs id).accepted = (hub.subs id).accepted) ∧ effect.shared.published = hub.published ∧
      (∀ act ∈ effect.code, act.publishes = false) ∧ ∀ thread ∈ effect.forked, thread.name = .task ∧
        ∀ act ∈ thread.code, act.publishes = false := by
  cases act with
  | subscribe topic =>
    cases ran
    refine ⟨fun _ => rfl,rfl,?_,forall_mem_nil _⟩
    unfold subscribe
    dsimp only
    split
    all_goals simp [Act.publishes]
  | notifyChange =>
    cases ran
    exact ⟨fun _ => rfl,rfl,forall_mem_nil _,forall_mem_nil _⟩
  | await topic id =>
    cases ran
    exact ⟨fun _ => rfl,rfl,forall_mem_nil _,by simp [Act.publishes]⟩
  | contextDone topic id =>
    simp only [perform] at ran
    split at ran
    next =>
      cases ran
      exact ⟨fun _ => rfl,rfl,by simp [Act.publishes],forall_mem_nil _⟩
    next => cases ran
  | remove topic id =>
    cases ran
    refine ⟨fun _ => rfl,rfl,?_,forall_mem_nil _⟩
    intro act pushed
    simp only [removeSubscriber,mem_append,mem_ite_nil_right,mem_singleton] at pushed
    rcases pushed with ⟨_,rfl⟩ | ⟨_,rfl⟩
    all_goals rfl
  | close id =>
    cases ran
    refine ⟨fun other => setSub_same Subscriber.accepted ?_,rfl,forall_mem_nil _,forall_mem_nil _⟩
    unfold Subscriber.close
    split
    all_goals rfl
  | copy | send => cases quiet

theorem sendsTo_copy (publisher id : Nat) (payload : Payload α) {list : List Nat} (distinct : list.Nodup) :
    sendsTo id (list.map (Act.send publisher · payload)) = if id ∈ list then [payload] else [] := by
  induction list with
  | nil => rfl
  | cons first rest ih =>
    obtain ⟨fresh,others⟩ := nodup_cons.mp distinct
    have later := ih others
    unfold sendsTo at later ⊢
    by_cases same : first = id
    · subst same
      simp [later,fresh]
    · simp [later,same,Ne.symm same]

theorem copySubscribers_publishedFor (choice : Choice) (hub : Hub α) (publisher other id : Nat)
    (topic : Topic) (payload : Payload α) :
    (copySubscribers choice hub publisher topic payload).shared.publishedFor other id =
      hub.publishedFor other id ++ if other = publisher ∧ id ∈ hub.subscribers topic then [payload] else [] := by
  by_cases shown : other = publisher ∧ id ∈ hub.subscribers topic
  · obtain ⟨rfl,inside⟩ := shown
    simp [copySubscribers,Hub.publishedFor,inside]
  · rw [if_neg shown]
    have apart : ¬ (publisher = other ∧ id ∈ hub.subscribers topic) := fun both => shown ⟨both.1.symm,both.2⟩
    simp [copySubscribers,Hub.publishedFor,apart]

theorem sendTo_taken (hub : Hub α) (publisher id : Nat) (payload : Payload α) (other target : Nat) :
    (sendTo hub publisher id payload).taken other target = hub.taken other target ∨
      other = publisher ∧ target = id ∧
      (sendTo hub publisher id payload).taken other target = hub.taken other target
        ++ [payload] := by
  unfold sendTo
  extract_lets sub
  split
  · exact .inl rfl
  split
  next ch sent =>
    by_cases same : target = id
    · subst same
      have accepted : ((hub.setSub target {sub with ch := ch}).subs target).accepted = (hub.subs
        target).accepted ++ [(publisher,payload)] := by
        simp [Hub.setSub,Subscriber.accepted,Channel.send_buffer sent,sub]
      by_cases mine : other = publisher
      · subst mine
        refine .inr ⟨rfl,rfl,?_⟩
        unfold Hub.taken
        rw [accepted]
        simp
      · refine .inl ?_
        unfold Hub.taken
        rw [accepted]
        simp [Ne.symm mine]
    · refine .inl (taken_congr ?_)
      simp [Hub.setSub,same]
  next => exact .inl rfl

theorem perform_ordered (ran : perform choice act hub = some effect) (shaped : shape hub name (act :: code))
    (registry : Registry hub) (ordered : Ordered hub) : Ordered effect.shared ∧ shape effect.shared name (effect.code ++ code) ∧
      (∀ thread ∈ effect.forked, shape effect.shared thread.name thread.code ∧ sequential thread.name = false) ∧
      ∀ publisher, name ≠ .publisher publisher → Undisturbed hub effect.shared publisher := by
  cases name with
  | task =>
    obtain ⟨quiet,rest⟩ := forall_mem_cons.mp shaped
    obtain ⟨accepted,shown,pushed,forked⟩ := perform_quiet ran quiet
    have same := undisturbed accepted shown
    refine ⟨ordered.frame same,forall_mem_append.mpr ⟨pushed,rest⟩,fun thread new => ?_,fun publisher _ => same publisher⟩
    obtain ⟨named,quiet⟩ := forked thread new
    rw [named]
    exact ⟨quiet,rfl⟩
  | publisher publisher =>
    rcases shaped with ⟨topic,payload,copies⟩ | ⟨sends,due⟩
    · cases copies
      cases ran
      obtain ⟨list,permuted,code⟩ := copySubscribers_code choice hub publisher topic payload
      have distinct : list.Nodup := permuted.nodup_iff.mpr (registry.nodup topic)
      refine ⟨fun other id => ?_,.inr ⟨?_,fun id => ?_⟩,forall_mem_nil _,fun other apart id => ⟨rfl,?_⟩⟩
      · rw [copySubscribers_publishedFor]
        exact (ordered other id).trans (sublist_append_left _ _)
      · rw [code,append_nil]
        simp
      · rw [code,append_nil,sendsTo_copy publisher id payload distinct,copySubscribers_publishedFor]
        simp only [permuted.mem_iff,true_and]
        exact (ordered publisher id).append_right _
      · rw [copySubscribers_publishedFor,if_neg fun both => apart (by rw [both.1]),append_nil]
    · obtain ⟨⟨id,payload,rfl⟩,rest⟩ := forall_mem_cons.mp sends
      cases ran
      have shown (other target : Nat) : (sendTo hub publisher id payload).publishedFor other target = hub.publishedFor other target :=
        publishedFor_congr (sendTo_registry hub publisher id payload).2.2.2
      have left (target : Nat) :
          ((sendTo hub publisher id payload).taken publisher target ++ sendsTo target code).Sublist
            (hub.publishedFor publisher target) := by
        refine List.Sublist.trans ?_ (due target)
        rcases sendTo_taken hub publisher id payload publisher target with same | ⟨_,rfl,taken⟩
        · rw [same]
          exact (List.Sublist.refl _).append ((sublist_cons_self _ code).filterMap _)
        · rw [taken,append_assoc]
          simp [sendsTo]
      refine ⟨fun other target => ?_,.inr ⟨rest,fun target => ?_⟩,forall_mem_nil _,fun other apart target => ⟨?_,shown other target⟩⟩
      · rw [shown]
        by_cases mine : other = publisher
        · subst mine
          exact (sublist_append_left _ _).trans (left target)
        · rcases sendTo_taken hub publisher id payload other target with same | ⟨rfl,_,_⟩
          · rw [same]
            exact ordered other target
          · exact absurd rfl mine
      · rw [shown]
        exact left target
      · rcases sendTo_taken hub publisher id payload other target with same | ⟨rfl,_,_⟩
        · exact same
        · exact absurd rfl apart

end

structure Delivers (system : System α) : Prop where
  tracked : Tracked system.shared system.acts
  ordered : Ordered system.shared
  shaped : system.Shaped sequential (shape system.shared)

theorem step_delivers (delivers : Delivers system) (stepped : step system label = some next) : Delivers next := by
  have launches {event : Event α} {effect : Outcome α} {name : Name} (began : launch event system.shared = some (effect,name)) :
      ∀ publisher, Undisturbed system.shared effect.shared publisher :=
    undisturbed (launch_cases began).accepted (launch_cases began).published
  refine ⟨step_tracked delivers.tracked stepped,?_,?_⟩
  · obtain ⟨event,effect,name,rfl,began,_,rfl⟩ | ⟨choice,before,name,act,rest,after,effect,rfl,split,ran,rfl⟩ |
      ⟨before,name,after,split,rfl⟩ := Machine.step_cases stepped
    · exact delivers.ordered.frame (launches began)
    · have inside : ⟨name,act :: rest⟩ ∈ system.threads := split ▸ mem_append_right _ mem_cons_self
      exact (perform_ordered ran (delivers.shaped.shapes _ inside) delivers.tracked.registry delivers.ordered).1
    · exact delivers.ordered
  · refine Machine.shaped_step (fun event effect name _ began => ?_) (fun choice act rest effect name _ inside ran => ?_)
      delivers.shaped stepped
    · refine ⟨?_,fun thread new => ?_,fun thread _ _ shaped => shape_frame shaped fun publisher _ => launches began publisher⟩
      · rcases (launch_cases began).starts with ⟨rfl,none | ⟨topic,one⟩⟩ | ⟨publisher,rfl,none | copies⟩
        · rw [none]
          exact forall_mem_nil _
        · rw [one]
          exact fun act only => mem_singleton.mp only ▸ rfl
        · rw [none]
          exact .inr ⟨forall_mem_nil _,fun id => (append_nil _).symm ▸ delivers.ordered.frame (launches began) publisher id⟩
        · exact .inl copies
      · rw [(launch_cases began).forked] at new
        exact nomatch new
    · obtain ⟨_,own,forked,others⟩ := perform_ordered ran (delivers.shaped.shapes _ inside) delivers.tracked.registry delivers.ordered
      refine ⟨own,forked,fun thread _ apart shaped => shape_frame shaped fun publisher named => others publisher fun same => ?_⟩
      exact nomatch (congrArg sequential same).symm.trans (apart (named.trans same.symm))

structure Fanout (system : System α) : Prop where
  closedOnce : ∀ id, (system.shared.subs id).closes ≤ 1
  closedAfter : ∀ id, 0 < (system.shared.subs id).closes → system.shared.done id = true
  unblocked : ∀ thread ∈ system.threads, ∀ publisher, thread.name = .publisher publisher →
    ∀ act ∈ thread.code, ∀ choice, (perform choice act system.shared).isSome = true
  inOrder : ∀ publisher id, (((system.shared.subs id).received.filter (·.1 = publisher)).map (·.2)).Sublist
    (system.shared.publishedFor publisher id)

theorem Delivers.fanout (delivers : Delivers system) : Fanout system where
  closedOnce id := by
    rw [delivers.tracked.once id]
    exact Bool.toNat_le _
  closedAfter id closed := (delivers.tracked.closing id (.inr closed)).1
  unblocked thread inside publisher named act due choice := by
    have shaped := delivers.shaped.shapes thread inside
    rw [named] at shaped
    rcases shaped with ⟨topic,payload,copies⟩ | ⟨sends,_⟩
    · rw [copies] at due
      cases mem_singleton.mp due
      rfl
    · obtain ⟨id,payload,rfl⟩ := sends act due
      rfl
  inOrder publisher id := by
    refine List.Sublist.trans ?_ (delivers.ordered publisher id)
    exact ((sublist_append_left _ _).filter _).map _

/-- The hub keeps its promises in every run, and no publisher sends on a closed channel in the runs in which no channel is
closed under a publisher that still has it in its copy. -/
theorem fanout_unpanicked :
    (∀ (labels : List (Label α)) (final : System α), Run step anyStep (initially α) labels final → Fanout final) ∧
      ∀ (labels : List (Label α)) (final : System α), Run step closesUnused (initially α) labels final →
        Fanout final ∧ final.shared.panicked = false := by
  have always (labels : List (Label α)) (final : System α) (run : Run step anyStep (initially α) labels final) : Fanout final :=
    (run.invariant Delivers (fun _ _ _ delivers _ stepped => step_delivers delivers stepped)
      ⟨initially_tracked,fun _ _ => nil_sublist _,⟨forall_mem_nil _,List.Pairwise.nil⟩⟩).fanout
  refine ⟨always,fun labels final run => ⟨always labels final (run.weaken fun _ _ _ => trivial),?_⟩⟩
  have safe := run.invariant (fun system => Unpanicked system.shared system.acts)
    (fun _ _ _ safe allowed stepped => step_unpanicked safe allowed stepped)
    ⟨initially_tracked,rfl,fun _ _ _ pending => (nomatch pending)⟩
  exact safe.alive

def copied : List (Label Nat) :=
  [.start (.subscribe .zones),.run 0 {},.run 0 {},.start (.publish 0 (.publishZoneUpdate 5)),.run 2 {}]

def disconnect : List (Label Nat) := [.start (.cancel 1),.run 1 {},.run 1 {},.run 1 {}]

/-- A disconnect between the copy and the send ends the process. -/
theorem panics_on_disconnect :
    ∃ final, Run step anyStep (initially Nat) (copied ++ disconnect ++ [.run 2 {}]) final ∧ final.shared.panicked = true :=
  Run.exists_of_execute _ (by decide +kernel)

theorem disconnect_after_send :
    ∃ final, Run step closesUnused (initially Nat) (copied ++ .run 2 {} :: disconnect) final ∧
      ((final.shared.subs 1).closes = 1 ∧ (final.shared.subs 1).ch.buffer = [(0,.update 5)]) ∧
      Fanout final ∧ final.shared.panicked = false := by
  refine Exists.imp (fun final found => and_assoc.mp ⟨found,?_⟩) (Run.exists_of_executeWhere _ (by decide +kernel))
  exact fanout_unpanicked.2 _ final found.1

end EbusGateway.BroadcastHub
