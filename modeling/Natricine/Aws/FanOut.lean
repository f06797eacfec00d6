import Natricine.Library.Dict
import Natricine.Library.Text
import Mathlib.Data.List.Induction
import Mathlib.Logic.Function.Basic

/-! `SNSSubscriber._setup_subscription`: the queue of each consumer group, its policy and its
subscription, and the queues that a message published to a topic then reaches. -/

namespace Natricine.Aws

open Text

/-- A statement of a queue policy; `sourceArn` is what `aws:SourceArn` has to equal. -/
structure Statement where
  effect : String
  service : String
  action : String
  resource : Str
  sourceArn : Str
  deriving DecidableEq, Repr

structure Policy where
  version : String
  statement : List Statement
  deriving DecidableEq, Repr

/-- Queues are known by their ARN, which their URL stands for as well; a subscription is a topic
ARN and a queue ARN. -/
structure Account where
  queues : Dict Str (Option Policy)
  subscriptions : List (Str × Str)

namespace Account

def empty : Account := ⟨Dict.empty, []⟩

def createQueue (account : Account) (queueArn : Str) : Account :=
  match account.queues.get? queueArn with
  | some _ => account
  | none => { account with queues := account.queues.set queueArn none }

/-- `set_queue_attributes` replaces the policy. -/
def setPolicy (account : Account) (queueArn : Str) (policy : Policy) : Account :=
  { account with queues := account.queues.set queueArn (some policy) }

def subscribe (account : Account) (topicArn queueArn : Str) : Account :=
  if (topicArn, queueArn) ∈ account.subscriptions then account
  else { account with subscriptions := account.subscriptions ++ [(topicArn, queueArn)] }

end Account

def allowing (queueArn topicArn : Str) : Statement :=
  ⟨"Allow", "sns.amazonaws.com", "sqs:SendMessage", queueArn, topicArn⟩

def Account.Permits (account : Account) (topicArn queueArn : Str) : Prop :=
  ∃ policy, account.queues.get? queueArn = some (some policy) ∧
    allowing queueArn topicArn ∈ policy.statement

/-- The queues that a message published to the topic reaches: those subscribed to it whose policy
permits it. -/
def Account.Reaches (account : Account) (topicArn queueArn : Str) : Prop :=
  (topicArn, queueArn) ∈ account.subscriptions ∧ account.Permits topicArn queueArn

/-- What the ARN of a queue puts before its name, and the topic ARN that `_get_topic_arn` gives
for a name, from the resolver, from `create_topic` or from the list of topics. -/
structure Cloud where
  queuePrefix : Str
  topicArn : Str → Str

/-- `f"{topic}-{self._config.consumer_group}"` -/
def queueName (topic group : Str) : Str := topic ++ ofString "-" ++ group

def Cloud.queueArn (cloud : Cloud) (pair : Str × Str) : Str :=
  cloud.queuePrefix ++ queueName pair.1 pair.2

structure Subscriber where
  consumerGroup : Str
  setupComplete : Dict Str Str

structure State where
  account : Account
  subscribers : Nat → Subscriber

def policyFor (queueArn topicArn : Str) : Policy := ⟨"2012-10-17", [allowing queueArn topicArn]⟩

/-- The body of `_setup_subscription` for a topic that the subscriber has not set up. -/
def connect (cloud : Cloud) (account : Account) (topic group : Str) : Account :=
  let topicArn := cloud.topicArn topic
  let queueArn := cloud.queueArn (topic, group)
  ((account.createQueue queueArn).setPolicy queueArn (policyFor queueArn topicArn)).subscribe
    topicArn queueArn

def setupSubscription (cloud : Cloud) (s : State) (call : Nat × Str) : State :=
  let subscriber := s.subscribers call.1
  match subscriber.setupComplete.get? call.2 with
  | some _ => s
  | none =>
      { account := connect cloud s.account call.2 subscriber.consumerGroup
        subscribers := Function.update s.subscribers call.1
          { subscriber with
            setupComplete := subscriber.setupComplete.set call.2
              (cloud.queueArn (call.2, subscriber.consumerGroup)) } }

def fresh (groups : Nat → Str) : State :=
  ⟨Account.empty, fun worker => ⟨groups worker, Dict.empty⟩⟩

def setups (cloud : Cloud) (groups : Nat → Str) (calls : List (Nat × Str)) : State :=
  calls.foldl (setupSubscription cloud) (fresh groups)

def pairs (groups : Nat → Str) (calls : List (Nat × Str)) : List (Str × Str) :=
  calls.map (fun call => (call.2, groups call.1))

/-- Each pair has a queue of its own; a message published to a topic reaches the queues of its
pairs and no others; and each queue goes on letting its topic in. -/
structure FannedOut (cloud : Cloud) (members : List (Str × Str)) (account : Account) : Prop where
  distinct : ∀ pair ∈ members, ∀ other ∈ members, pair ≠ other →
    cloud.queueArn pair ≠ cloud.queueArn other
  reached : ∀ topic queueArn, account.Reaches (cloud.topicArn topic) queueArn ↔
    ∃ group, (topic, group) ∈ members ∧ queueArn = cloud.queueArn (topic, group)
  permitted : ∀ pair ∈ members, account.Permits (cloud.topicArn pair.1) (cloud.queueArn pair)

/-- Two pairs give one queue name only if they are the same, and no other topic name leads to the
ARN of a topic that is set up. -/
structure NamesApart (cloud : Cloud) (members : List (Str × Str)) : Prop where
  queues : ∀ pair ∈ members, ∀ other ∈ members,
    queueName pair.1 pair.2 = queueName other.1 other.2 → pair = other
  topics : ∀ pair ∈ members, ∀ topic, cloud.topicArn topic = cloud.topicArn pair.1 → topic = pair.1

structure Connected (cloud : Cloud) (members : List (Str × Str)) (account : Account) : Prop where
  subscribed : ∀ topicArn queueArn, (topicArn, queueArn) ∈ account.subscriptions ↔
    ∃ pair ∈ members, topicArn = cloud.topicArn pair.1 ∧ queueArn = cloud.queueArn pair
  policed : ∀ pair ∈ members, ∃ last ∈ members, cloud.queueArn last = cloud.queueArn pair ∧
    account.queues.get? (cloud.queueArn pair) =
      some (some (policyFor (cloud.queueArn pair) (cloud.topicArn last.1)))

section Setup

variable {cloud : Cloud} {members : List (Str × Str)} {account : Account}

theorem queueArn_eq_iff (pair other : Str × Str) :
    cloud.queueArn pair = cloud.queueArn other ↔
      queueName pair.1 pair.2 = queueName other.1 other.2 :=
  List.append_right_inj _

theorem createQueue_subscriptions (queueArn : Str) :
    (account.createQueue queueArn).subscriptions = account.subscriptions := by
  rw [Account.createQueue]
  split <;> rfl

theorem createQueue_get? {queueArn other : Str} (differs : other ≠ queueArn) :
    (account.createQueue queueArn).queues.get? other = account.queues.get? other := by
  rw [Account.createQueue]
  split
  · rfl
  · exact Dict.get?_set_of_ne differs

theorem mem_subscribe {topicArn queueArn : Str} {entry : Str × Str} :
    entry ∈ (account.subscribe topicArn queueArn).subscriptions ↔
      entry ∈ account.subscriptions ∨ entry = (topicArn, queueArn) := by
  rw [Account.subscribe]
  split
  · rename_i member
    constructor
    · exact Or.inl
    · rintro (old | rfl)
      · exact old
      · exact member
  · rw [List.mem_append, List.mem_singleton]

theorem subscribe_queues (topicArn queueArn : Str) :
    (account.subscribe topicArn queueArn).queues = account.queues := by
  rw [Account.subscribe]
  split <;> rfl

theorem connect_get? (topic group queueArn : Str) :
    (connect cloud account topic group).queues.get? queueArn =
      if queueArn = cloud.queueArn (topic, group) then
        some (some (policyFor (cloud.queueArn (topic, group)) (cloud.topicArn topic)))
      else account.queues.get? queueArn := by
  simp only [connect, subscribe_queues, Account.setPolicy, Dict.get?_set]
  split
  · rfl
  · rename_i differs
    exact createQueue_get? differs

theorem mem_connect (topic group : Str) (entry : Str × Str) :
    entry ∈ (connect cloud account topic group).subscriptions ↔
      entry ∈ account.subscriptions ∨
        entry = (cloud.topicArn topic, cloud.queueArn (topic, group)) := by
  simp only [connect, mem_subscribe, Account.setPolicy, createQueue_subscriptions]

theorem Connected.connect (connected : Connected cloud members account) (topic group : Str) :
    Connected cloud (members ++ [(topic, group)]) (connect cloud account topic group) := by
  refine ⟨?_, ?_⟩
  · intro topicArn queueArn
    rw [mem_connect, connected.subscribed]
    constructor
    · rintro (⟨pair, member, same⟩ | new)
      · exact ⟨pair, List.mem_append_left _ member, same⟩
      · cases new
        exact ⟨(topic, group), List.mem_append_right _ List.mem_cons_self, rfl, rfl⟩
    · rintro ⟨pair, member, same, named⟩
      rcases List.mem_append.mp member with old | new
      · exact Or.inl ⟨pair, old, same, named⟩
      · cases List.mem_singleton.mp new
        rw [same, named]
        exact Or.inr rfl
  · intro pair member
    rw [connect_get?]
    by_cases shared : cloud.queueArn pair = cloud.queueArn (topic, group)
    · rw [if_pos shared, shared]
      exact ⟨(topic, group), List.mem_append_right _ List.mem_cons_self, rfl, rfl⟩
    · rw [if_neg shared]
      rcases List.mem_append.mp member with old | new
      · rcases connected.policed pair old with ⟨last, there, same, policy⟩
        exact ⟨last, List.mem_append_left _ there, same, policy⟩
      · rw [List.mem_singleton.mp new] at shared
        exact absurd rfl shared

theorem Connected.again (connected : Connected cloud members account) {pair : Str × Str}
    (there : pair ∈ members) : Connected cloud (members ++ [pair]) account := by
  have same : ∀ other, other ∈ members ++ [pair] ↔ other ∈ members := by
    intro other
    rw [List.mem_append, List.mem_singleton]
    constructor
    · rintro (old | rfl)
      · exact old
      · exact there
    · exact Or.inl
  refine ⟨?_, ?_⟩
  · simp only [same]
    exact connected.subscribed
  · simp only [same]
    exact connected.policed

theorem permits_iff {queueArn topicArn sender : Str}
    (policy : account.queues.get? queueArn = some (some (policyFor queueArn sender))) :
    account.Permits topicArn queueArn ↔ topicArn = sender := by
  constructor
  · rintro ⟨found, same, member⟩
    rw [policy] at same
    cases same
    cases List.mem_singleton.mp member
    rfl
  · rintro rfl
    exact ⟨_, policy, List.mem_singleton_self _⟩

theorem Connected.fannedOut (connected : Connected cloud members account)
    (apart : NamesApart cloud members) : FannedOut cloud members account := by
  -- Where the names are apart, the pair that set the policy last is the pair itself.
  have policed : ∀ pair ∈ members, account.queues.get? (cloud.queueArn pair) =
      some (some (policyFor (cloud.queueArn pair) (cloud.topicArn pair.1))) := by
    intro pair member
    rcases connected.policed pair member with ⟨last, there, same, policy⟩
    rw [apart.queues last there pair member ((queueArn_eq_iff last pair).mp same)] at policy
    exact policy
  refine ⟨?_, ?_, ?_⟩
  · intro pair member other there differ same
    exact differ (apart.queues pair member other there ((queueArn_eq_iff pair other).mp same))
  · intro topic queueArn
    rw [Account.Reaches, connected.subscribed]
    constructor
    · rintro ⟨⟨pair, member, same, rfl⟩, -⟩
      have named := apart.topics pair member topic same
      exact ⟨pair.2, by rw [named]; exact member, by rw [named]⟩
    · rintro ⟨group, member, rfl⟩
      exact ⟨⟨_, member, rfl, rfl⟩, (permits_iff (policed _ member)).mpr rfl⟩
  · intro pair member
    exact (permits_iff (policed pair member)).mpr rfl

theorem FannedOut.namesApart (fannedOut : FannedOut cloud members account) :
    NamesApart cloud members := by
  have queues : ∀ pair ∈ members, ∀ other ∈ members,
      queueName pair.1 pair.2 = queueName other.1 other.2 → pair = other := by
    intro pair member other there same
    by_contra differ
    exact fannedOut.distinct pair member other there differ ((queueArn_eq_iff pair other).mpr same)
  refine ⟨queues, ?_⟩
  intro pair member topic same
  have own := (fannedOut.reached pair.1 (cloud.queueArn pair)).mpr ⟨pair.2, member, rfl⟩
  rw [← same] at own
  rcases (fannedOut.reached topic _).mp own with ⟨group, there, shared⟩
  have equal := queues pair member (topic, group) there ((queueArn_eq_iff _ _).mp shared)
  rw [equal]

end Setup

section Run

variable {cloud : Cloud} {groups : Nat → Str}

structure Remembered (groups : Nat → Str) (members : List (Str × Str)) (s : State) : Prop where
  group : ∀ worker, (s.subscribers worker).consumerGroup = groups worker
  known : ∀ worker topic queueArn,
    (s.subscribers worker).setupComplete.get? topic = some queueArn →
      (topic, groups worker) ∈ members

theorem step_connected {members : List (Str × Str)} {s : State} (call : Nat × Str)
    (remembered : Remembered groups members s) (connected : Connected cloud members s.account) :
    Remembered groups (members ++ [(call.2, groups call.1)]) (setupSubscription cloud s call) ∧
      Connected cloud (members ++ [(call.2, groups call.1)])
        (setupSubscription cloud s call).account := by
  have group := remembered.group call.1
  rw [setupSubscription]
  cases found : (s.subscribers call.1).setupComplete.get? call.2 with
  | some queueArn =>
      have there := remembered.known call.1 call.2 queueArn found
      refine ⟨⟨remembered.group, ?_⟩, connected.again there⟩
      intro worker topic known same
      exact List.mem_append_left _ (remembered.known worker topic known same)
  | none =>
      refine ⟨⟨?_, ?_⟩, ?_⟩
      · intro worker
        by_cases here : worker = call.1
        · subst here
          simp only [Function.update_self]
          exact group
        · simp only [Function.update_of_ne here]
          exact remembered.group worker
      · intro worker topic known same
        by_cases here : worker = call.1
        · subst here
          simp only [Function.update_self, Dict.get?_set] at same
          split at same
          · rename_i named
            rw [named]
            exact List.mem_append_right _ List.mem_cons_self
          · exact List.mem_append_left _ (remembered.known call.1 topic known same)
        · simp only [Function.update_of_ne here] at same
          exact List.mem_append_left _ (remembered.known worker topic known same)
      · simp only [group]
        exact connected.connect call.2 (groups call.1)

theorem setups_connected (cloud : Cloud) (groups : Nat → Str) (calls : List (Nat × Str)) :
    Connected cloud (pairs groups calls) (setups cloud groups calls).account := by
  have both : Remembered groups (pairs groups calls) (setups cloud groups calls) ∧
      Connected cloud (pairs groups calls) (setups cloud groups calls).account := by
    induction calls using List.reverseRecOn with
    | nil =>
        refine ⟨⟨fun _ => rfl, nofun⟩, ?_, nofun⟩
        intro topicArn queueArn
        exact iff_of_false List.not_mem_nil nofun
    | append_singleton calls call ih =>
        have unfolded : setups cloud groups (calls ++ [call]) =
            setupSubscription cloud (setups cloud groups calls) call := List.foldl_concat ..
        rw [pairs, List.map_append, unfolded]
        exact step_connected call ih.1 ih.2
  exact both.2

end Run

/-- For every sequence of setups by any number of subscribers with any consumer groups: the topics
fan out, each to its own queues, if and only if the names are apart. -/
theorem fanned_out_iff_names_apart (cloud : Cloud) (groups : Nat → Str) (calls : List (Nat × Str)) :
    FannedOut cloud (pairs groups calls) (setups cloud groups calls).account ↔
      NamesApart cloud (pairs groups calls) := by
  constructor
  · exact FannedOut.namesApart
  · exact (setups_connected cloud groups calls).fannedOut

def region : Cloud where
  queuePrefix := ofString "arn:aws:sqs:us-east-1:000000000000:"
  topicArn name := ofString "arn:aws:sns:us-east-1:000000000000:" ++ name

def hyphenated : Nat → Str
  | 0 => ofString "c"
  | _ => ofString "b-c"

/-- Both pairs have the queue `a-b-c`. Once `a` is set up after `a-b`, its policy no longer lets
`a-b` in. -/
theorem hyphen_joins_two_pairs :
    ¬FannedOut region (pairs hyphenated [(0, ofString "a-b"), (1, ofString "a")])
        (setups region hyphenated [(0, ofString "a-b"), (1, ofString "a")]).account ∧
      ¬(setups region hyphenated [(0, ofString "a-b"), (1, ofString "a")]).account.Permits
        (region.topicArn (ofString "a-b")) (region.queueArn (ofString "a-b", ofString "c")) := by
  constructor
  · intro fannedOut
    exact fannedOut.distinct (ofString "a-b", ofString "c") (by decide)
      (ofString "a", ofString "b-c") (by decide) (by decide) (by decide)
  · have replaced :
        (setups region hyphenated [(0, ofString "a-b"), (1, ofString "a")]).account.queues.get?
            (region.queueArn (ofString "a-b", ofString "c")) =
          some (some (policyFor (region.queueArn (ofString "a-b", ofString "c"))
            (region.topicArn (ofString "a")))) := by decide
    rw [permits_iff replaced]
    decide

end Natricine.Aws
