import HaiderAgent.Protocol.Basic

/-!
# Permission policy

Permission menus and their decisions (`haider-protocol/src/menu.rs`), session
grants and the layered policy of the effect broker
(`haider-tools/src/broker.rs`).
-/

namespace HaiderAgent

/-- `DecisionKind` (menu.rs). -/
inductive DecisionKind where
  | allowOnce | allowAlways | rejectOnce | rejectAlways
  deriving DecidableEq, Repr

/-- `MenuOption` (`menu.rs`), by its key and the permission decision it stands for. -/
structure DecisionOption where
  key : String
  decision : Option DecisionKind
  deriving DecidableEq, Repr

/-- `Menu` (`menu.rs`), by the fields a permission answer is checked against. -/
structure DecisionMenu where
  id : MenuId
  kind : MenuKind
  options : List DecisionOption
  deriving DecidableEq, Repr

/-- `matches!(menu.kind, MenuKind::Permission { .. })`. -/
def DecisionMenu.isPermission (menu : DecisionMenu) : Bool :=
  match menu.kind with
  | .permission _ => true
  | _ => false

/-- `selected_menu_option` (`haider-daemon/src/worker.rs`): the key wins over the index. -/
def selectedMenuOption (menu : DecisionMenu) (answer : MenuAnswer) : Option DecisionOption :=
  match answer.optionKey with
  | some key => menu.options.find? (·.key == key)
  | none => menu.options[answer.optionIndex]?

/-- `PolicyDecision` (broker.rs). -/
inductive PolicyDecision where
  | allow | ask
  | deny (reason : String)
  deriving DecidableEq, Repr

/-- `AlwaysAllowRule`. -/
structure AlwaysAllowRule where
  class_ : EffectClass
  argsDigest : String
  deriving DecidableEq, Repr

/-- What a session grant covers. -/
inductive SessionGrantScope where
  | class_
  | commandShape (argsDigest : String)
  deriving DecidableEq, Repr

/-- `SessionGrant`. -/
structure SessionGrant where
  class_ : EffectClass
  scope : SessionGrantScope
  deriving DecidableEq, Repr

/-- The classes whose grants are bound to one command shape. -/
def EffectClass.isExecution : EffectClass → Bool
  | .processExec | .remoteExecution => true
  | _ => false

/-- `SessionGrant::for_effect`: an execution is granted by its arguments. -/
def SessionGrant.forEffect (class_ : EffectClass) (argsDigest : String) : SessionGrant where
  class_ := class_
  scope := if class_.isExecution then .commandShape argsDigest else .class_

/-- `SessionGrant::matches`. -/
def SessionGrant.matches (grant : SessionGrant) (intent : EffectIntent) : Bool :=
  if grant.class_ ≠ intent.class_ then false
  else
    match grant.scope with
    | .class_ => true
    | .commandShape argsDigest => argsDigest == intent.argsDigest

/-- `DenyRule`. -/
structure DenyRule where
  class_ : EffectClass
  reason : String
  deriving DecidableEq, Repr

/-- `PermissionPolicy`. -/
structure PermissionPolicy where
  hardDenylist : List DenyRule := []
  allowlist : List EffectClass := []
  asklist : List EffectClass := []
  denylist : List DenyRule := []
  alwaysAllow : List AlwaysAllowRule := []
  sessionAllow : List SessionGrant := []
  autoAllowAsks : Bool := false
  deriving DecidableEq, Repr

/-- `class_rule_matches`: a network rule with no host covers every host. -/
def classRuleMatches (rule intent : EffectClass) : Bool :=
  if rule = intent then true
  else
    match rule, intent with
    | .network host, .network _ => host.isEmpty
    | _, _ => false

namespace PermissionPolicy

variable (policy : PermissionPolicy)

/-- `remove_class`. -/
def removeClass (class_ : EffectClass) : PermissionPolicy :=
  { policy with
    allowlist := policy.allowlist.filter (· ≠ class_)
    asklist := policy.asklist.filter (· ≠ class_)
    denylist := policy.denylist.filter (·.class_ ≠ class_) }

/-- `PermissionPolicy::set`: the class leaves its old list. -/
def set (class_ : EffectClass) (decision : PolicyDecision) : PermissionPolicy :=
  let policy := policy.removeClass class_
  match decision with
  | .allow => { policy with allowlist := policy.allowlist ++ [class_] }
  | .ask => { policy with asklist := policy.asklist ++ [class_] }
  | .deny reason => { policy with denylist := policy.denylist ++ [⟨class_, reason⟩] }

/-- `PermissionPolicy::deny`. -/
def deny (policy : PermissionPolicy) (class_ : EffectClass) (reason : String) : PermissionPolicy :=
  policy.set class_ (.deny reason)

/-- A grant is added once. -/
def addGrant (grant : SessionGrant) : PermissionPolicy :=
  if grant ∈ policy.sessionAllow then policy
  else { policy with sessionAllow := policy.sessionAllow ++ [grant] }

/-- `allow_session_grant`: control carries observation; `none` is the refused class grant. -/
def allowSessionGrant (grant : SessionGrant) : Option PermissionPolicy :=
  if grant.class_.isExecution ∧ grant.scope = .class_ then none
  else
    let policy := policy.addGrant grant
    if grant.class_ = .screenControl then some (policy.addGrant ⟨.screenObserve, .class_⟩)
    else some policy

/-- `PermissionPolicy::decision`: deny, then allows and grants, then promotion, then ask. -/
def decision (intent : EffectIntent) : PolicyDecision :=
  match policy.hardDenylist.find? fun rule => classRuleMatches rule.class_ intent.class_ with
  | some rule => .deny rule.reason
  | none =>
    match policy.denylist.find? fun rule => classRuleMatches rule.class_ intent.class_ with
    | some rule => .deny rule.reason
    | none =>
      if (policy.alwaysAllow.any fun rule =>
            rule.class_ == intent.class_ && rule.argsDigest == intent.argsDigest) ||
          (policy.sessionAllow.any fun grant => grant.matches intent) ||
          (policy.allowlist.any fun listed => classRuleMatches listed intent.class_) then
        .allow
      else if policy.autoAllowAsks then .allow
      else .ask

end PermissionPolicy

end HaiderAgent
