import ClusterBackup.Proofs.Program.Ending
import ClusterBackup.Proofs.Text.Pieces
import ClusterBackup.Run.Backup

/-! Which hosts share a repository object.

A repository object is named after the path of the host, with a dot for each slash. Names in
a cluster may have dots of their own, so different paths can give one name. -/

set_option autoImplicit false

namespace ClusterBackup

namespace Text

theorem replaceChar_append (old new : Char) (s t : String) :
    replaceChar old new (s ++ t) = replaceChar old new s ++ replaceChar old new t := by
  simp [replaceChar, onChars]

theorem replaceChar_of_absent {old : Char} {s : String} (new : Char) (absent : old ∉ s.toList) :
    replaceChar old new s = s := by
  have unchanged : s.toList.map (fun c => if c = old then new else c) = s.toList.map id :=
    List.map_congr_left fun c member => if_neg (ne_of_mem_of_not_mem member absent)
  rw [replaceChar, onChars, unchanged, List.map_id, String.ofList_toList]

end Text

namespace Cluster.WorkloadKind

theorem lower_injective {kind other : WorkloadKind} (same : kind.lower = other.lower) :
    kind = other := by
  cases kind <;> cases other <;> first | rfl | simp [lower] at same

theorem dot_not_mem_lower (kind : WorkloadKind) : '.' ∉ kind.lower.toList := by
  cases kind <;> decide

theorem slash_not_mem_lower (kind : WorkloadKind) : '/' ∉ kind.lower.toList := by
  cases kind <;> decide

theorem cutChar_lower (kind : WorkloadKind) (s : String) :
    Text.cutChar '.' (kind.lower ++ "." ++ s) = some (kind.lower, s) :=
  Text.cutChar_append kind.lower s kind.dot_not_mem_lower

end Cluster.WorkloadKind

namespace Host

open Cluster Program

/-- A name that an object of a cluster can have. -/
def IsLegal (name : String) : Prop :=
  ∀ c ∈ name.toList, c.isLower ∨ c.isDigit ∨ c = '-' ∨ c = '.'

instance (name : String) : Decidable (IsLegal name) :=
  List.decidableBAll _ _

theorem IsLegal.slash_not_mem {name : String} (legal : IsLegal name) : '/' ∉ name.toList :=
  fun member => absurd (legal '/' member) (by decide)

def dotted (path : String) : String := Text.replaceChar '/' '.' path

theorem IsLegal.dotted_eq {name : String} (legal : IsLegal name) : dotted name = name :=
  Text.replaceChar_of_absent '.' legal.slash_not_mem

theorem dotted_lower (kind : WorkloadKind) : dotted kind.lower = kind.lower :=
  Text.replaceChar_of_absent '.' kind.slash_not_mem_lower

theorem dotted_append (s t : String) : dotted (s ++ t) = dotted s ++ dotted t :=
  Text.replaceChar_append '/' '.' s t

theorem dotted_slash (s t : String) : dotted (s ++ "/" ++ t) = dotted s ++ "." ++ dotted t := by
  rw [dotted_append, dotted_append]
  rfl

theorem dotted_dot (s t : String) : dotted (s ++ "." ++ t) = dotted s ++ "." ++ dotted t := by
  rw [dotted_append, dotted_append]
  rfl

def objectName (path : String) : String :=
  if path = "" then "default" else dotted path

theorem objectName_slash (s t : String) :
    objectName (s ++ "/" ++ t) = dotted s ++ "." ++ dotted t := by
  rw [objectName, if_neg (by simp), dotted_slash]

theorem objectName_dot (s t : String) :
    objectName (s ++ "." ++ t) = dotted s ++ "." ++ dotted t := by
  rw [objectName, if_neg (by simp), dotted_dot]

/-- The paths of hosts whose names are legal. -/
inductive IsPath : String → Prop where
  | plain {name : String} : IsLegal name → IsPath name
  | workload {kind : WorkloadKind} {name : String} :
      kind ≠ .daemonSet → IsLegal name → IsPath (kind.lower ++ "/" ++ name)
  | node {name node : String} :
      IsLegal name → IsLegal node →
        IsPath (WorkloadKind.daemonSet.lower ++ "/" ++ (name ++ "/" ++ node))

/-- The host of a workload, a pod and a node with legal names. -/
inductive Derived : Host → Prop where
  | intro (kind : WorkloadKind) {name pod node : String} :
      IsLegal name → IsLegal pod → IsLegal node → Derived (derive kind name pod node)

theorem Derived.isPath {h : Host} (derived : h.Derived) (autoPath : AutoPath) :
    IsPath (h.path autoPath) := by
  obtain @⟨kind, name, pod, node, legalName, legalPod, legalNode⟩ := derived
  cases autoPath with
  | smart =>
    -- Only daemon sets have the node in the path.
    by_cases nodes : kind = .daemonSet
    · subst nodes
      have path : (derive .daemonSet name pod node).path .smart =
          WorkloadKind.daemonSet.lower ++ "/" ++ (name ++ "/" ++ node) := by
        simp [Host.path, derive, String.append_assoc]
      exact path ▸ .node legalName legalNode
    · have path : (derive kind name pod node).path .smart = kind.lower ++ "/" ++ name := by
        cases kind <;> first | rfl | exact absurd rfl nodes
      exact path ▸ .workload nodes legalName
  | nodeName => cases kind <;> exact .plain legalNode
  | podName => cases kind <;> exact .plain legalPod
  | off => exact .plain nofun

/-- Two paths with one name for their objects. -/
inductive Clash : String → String → Prop where
  /-- A node or a pod has the name that stands for no path. -/
  | fallback : Clash "" "default"
  /-- A node or a pod has the name of a workload's object. -/
  | workload (kind : WorkloadKind) (name : String) :
      Clash (kind.lower ++ "/" ++ name) (kind.lower ++ "." ++ name)
  | node (name node : String) :
      Clash (WorkloadKind.daemonSet.lower ++ "/" ++ (name ++ "/" ++ node))
        (WorkloadKind.daemonSet.lower ++ "." ++ (name ++ "." ++ node))
  /-- What ends the name of one daemon set begins the name of the other's node. -/
  | shifted (name middle node : String) :
      Clash (WorkloadKind.daemonSet.lower ++ "/" ++ (name ++ "/" ++ (middle ++ "." ++ node)))
        (WorkloadKind.daemonSet.lower ++ "/" ++ (name ++ "." ++ middle ++ "/" ++ node))

variable {p q : String}

theorem Clash.objectName_eq (clash : Clash p q) : objectName p = objectName q := by
  cases clash with
  | fallback => decide
  | workload kind name => rw [objectName_slash, objectName_dot]
  | node name node => rw [objectName_slash, objectName_dot, dotted_slash, dotted_dot]
  | shifted name middle node =>
    rw [objectName_slash, objectName_slash, dotted_slash, dotted_slash, dotted_dot, dotted_dot]
    simp only [String.append_assoc]

theorem slash_ne_dot (s t u : String) : s ++ "/" ++ t ≠ s ++ "." ++ u := by
  intro same
  simpa using congrArg String.toList same

theorem Clash.ne (clash : Clash p q) : p ≠ q := by
  cases clash with
  | fallback => decide
  | workload kind name => exact slash_ne_dot _ _ _
  | node name node => exact slash_ne_dot _ _ _
  | shifted name middle node =>
    intro same
    refine slash_ne_dot name (middle ++ "." ++ node) (middle ++ "/" ++ node) ?_
    simpa [String.append_assoc] using same

/-- The kind of a workload can be read from the name. -/
theorem kind_of_objectName {kind other : WorkloadKind} {s t : String}
    (same : objectName (kind.lower ++ "/" ++ s) = objectName (other.lower ++ "/" ++ t)) :
    kind = other ∧ dotted s = dotted t := by
  rw [objectName_slash, objectName_slash, dotted_lower, dotted_lower] at same
  have cut := congrArg (Text.cutChar '.') same
  rw [kind.cutChar_lower, other.cutChar_lower, Option.some.injEq, Prod.mk.injEq] at cut
  exact ⟨WorkloadKind.lower_injective cut.1, cut.2⟩

theorem objectName_plain {name : String} (legal : IsLegal name) :
    name = "" ∧ objectName name = "default" ∨ objectName name = name := by
  by_cases empty : name = ""
  · exact .inl ⟨empty, if_pos empty⟩
  · exact .inr ((if_neg empty).trans legal.dotted_eq)

theorem plain_of_objectName {kind : WorkloadKind} {name t : String} (legal : IsLegal name)
    (same : objectName name = objectName (kind.lower ++ "/" ++ t)) :
    name = kind.lower ++ "." ++ dotted t := by
  rw [objectName_slash, dotted_lower] at same
  rcases objectName_plain legal with ⟨-, fallback⟩ | own
  · -- The name for no path has no dot.
    have cut := congrArg (Text.cutChar '.') (fallback.symm.trans same)
    rw [kind.cutChar_lower] at cut
    exact absurd cut nofun
  · exact own.symm.trans same

theorem dot_of_append {s t u v : String} {w : List Char} (first : u.toList = s.toList ++ w)
    (rest : '.' :: t.toList = w ++ '.' :: v.toList) :
    s = u ∧ t = v ∨ ∃ w, u = s ++ "." ++ w ∧ t = w ++ "." ++ v := by
  rcases List.cons_eq_append_iff.mp rest with ⟨rfl, rest⟩ | ⟨w, rfl, rest⟩
  · refine .inl ⟨String.ext ?_, String.ext ?_⟩
    · rw [first, List.append_nil]
    · exact (List.cons.inj rest).2
  · refine .inr ⟨String.ofList w, ?_, ?_⟩
    · simp [String.ext_iff, first]
    · simpa [String.ext_iff] using rest

theorem dot_cases {s t u v : String} (same : s ++ "." ++ t = u ++ "." ++ v) :
    s = u ∧ t = v ∨ (∃ w, u = s ++ "." ++ w ∧ t = w ++ "." ++ v) ∨
      ∃ w, s = u ++ "." ++ w ∧ v = w ++ "." ++ t := by
  have chars : s.toList ++ '.' :: t.toList = u.toList ++ '.' :: v.toList := by
    simpa using congrArg String.toList same
  rcases List.append_eq_append_iff.mp chars with ⟨w, first, rest⟩ | ⟨w, first, rest⟩
  · exact (dot_of_append first rest).imp id .inl
  · exact (dot_of_append first rest).imp (fun ⟨one, two⟩ => ⟨one.symm, two.symm⟩) .inr

theorem clash_of_plain {name : String} (legal : IsLegal name) (path : IsPath q)
    (same : objectName name = objectName q) : name = q ∨ Clash name q ∨ Clash q name := by
  cases path with
  | plain legal' =>
    -- Of two names without a slash only the empty one is changed.
    rcases objectName_plain legal with ⟨rfl, fallback⟩ | own <;>
      rcases objectName_plain legal' with ⟨rfl, fallback'⟩ | own'
    · exact .inl rfl
    · rw [own', fallback] at same
      exact .inr (.inl (same ▸ .fallback))
    · rw [own, fallback'] at same
      exact .inr (.inr (same ▸ .fallback))
    · exact .inl (own.symm.trans (same.trans own'))
  | workload _ legal' =>
    rw [plain_of_objectName legal same, legal'.dotted_eq]
    exact .inr (.inr (.workload _ _))
  | node legalName legalNode =>
    rw [plain_of_objectName legal same, dotted_slash, legalName.dotted_eq, legalNode.dotted_eq]
    exact .inr (.inr (.node _ _))

/-- Different paths with one name clash. -/
theorem clash_of_objectName (left : IsPath p) (right : IsPath q)
    (same : objectName p = objectName q) : p = q ∨ Clash p q ∨ Clash q p := by
  cases left with
  | plain legal => exact clash_of_plain legal right same
  | workload other legal =>
    cases right with
    | plain legal' =>
      exact (clash_of_plain legal' (.workload other legal) same.symm).imp Eq.symm Or.symm
    | workload _ legal' =>
      obtain ⟨rfl, names⟩ := kind_of_objectName same
      rw [legal.dotted_eq, legal'.dotted_eq] at names
      exact .inl (names ▸ rfl)
    | node _ _ => exact absurd (kind_of_objectName same).1 other
  | node legalName legalNode =>
    cases right with
    | plain legal =>
      exact (clash_of_plain legal (.node legalName legalNode) same.symm).imp Eq.symm Or.symm
    | workload other _ => exact absurd (kind_of_objectName same).1.symm other
    | node legalName' legalNode' =>
      have names := (kind_of_objectName same).2
      rw [dotted_slash, dotted_slash, legalName.dotted_eq, legalNode.dotted_eq,
        legalName'.dotted_eq, legalNode'.dotted_eq] at names
      -- The part of the name between both dots belongs to one daemon set, or to the other's node.
      rcases dot_cases names with ⟨rfl, rfl⟩ | ⟨middle, rfl, rfl⟩ | ⟨middle, rfl, rfl⟩
      · exact .inl rfl
      · exact .inr (.inl (.shifted _ _ _))
      · exact .inr (.inr (.shifted _ _ _))

/-- A backup by the host can go on to record itself on this repository object. -/
def RecordsOn (h : Host) (nameSpace : String) (config : Configuration) (name : String) : Prop :=
  ∃ trace, Path (Backup.ensureRepository h nameSpace config).run trace (.done (.ok name))

theorem recordsOn_iff (h : Host) (nameSpace : String) (config : Configuration) (name : String) :
    h.RecordsOn nameSpace config name ↔ name = h.repositoryName config.spec.autoPath := by
  constructor
  · rintro ⟨trace, path⟩
    rcases Path.of_bind_ok path with ⟨failure, impossible, _⟩ | ⟨found, _, _, rfl, _, path⟩
    · cases impossible
    cases found with
    | some repository =>
      cases (Path.of_done path).2
      rfl
    | none =>
      obtain ⟨created, _, _, rfl, _, path⟩ := Action.of_attempt_bind path
      cases created with
      | ok repository =>
        cases (Path.of_done path).2
        rfl
      | error failure =>
        by_cases conflict : failure.isConflict
        · simp only [conflict, if_true] at path
          cases (Path.of_done path).2
          rfl
        · simp only [conflict] at path
          cases (Path.of_done path).2
  · rintro rfl
    -- It is enough that the object is there already and does not have to be made.
    let repository := Repository.ofHost nameSpace (h.repositoryName config.spec.autoPath)
      config.name (config.spec.backend.extend (h.path config.spec.autoPath))
    have asked : Path (Action.ask (.get .repository nameSpace
        (h.repositoryName config.spec.autoPath))).run [_] (.done (.ok (some repository))) :=
      .request (.here _)
    exact ⟨_, Path.bind_ok asked (.here _)⟩

/-- Two hosts have one name for their repository objects though their paths are different, if
and only if the paths clash; and the hosts share a repository object if they have one name. -/
theorem shares_repository_iff {h h' : Host} (left : h.Derived) (right : h'.Derived)
    (autoPath autoPath' : AutoPath) :
    (h.repositoryName autoPath = h'.repositoryName autoPath' ∧
        h.path autoPath ≠ h'.path autoPath' ↔
      Clash (h.path autoPath) (h'.path autoPath') ∨ Clash (h'.path autoPath') (h.path autoPath)) ∧
    ∀ nameSpace config config', config.spec.autoPath = autoPath →
      config'.spec.autoPath = autoPath' →
      ((∃ repository, h.RecordsOn nameSpace config repository ∧
          h'.RecordsOn nameSpace config' repository) ↔
        h.repositoryName autoPath = h'.repositoryName autoPath') := by
  constructor
  · constructor
    · rintro ⟨same, different⟩
      exact (clash_of_objectName (left.isPath autoPath) (right.isPath autoPath') same).resolve_left
        different
    · rintro (clash | clash)
      · exact ⟨clash.objectName_eq, clash.ne⟩
      · exact ⟨clash.objectName_eq.symm, clash.ne.symm⟩
  · rintro nameSpace config config' rfl rfl
    simp only [recordsOn_iff]
    constructor
    · rintro ⟨repository, rfl, same⟩
      exact same
    · exact fun same => ⟨_, rfl, same⟩

namespace Agents

def configuration (name : String) : Configuration :=
  { metadata := Metadata.named "apps" name
    spec := {
      target := some { kind := "DaemonSet", name }
      backend := { gcs := some ⟨"vault", ""⟩, secretName := "keys" } } }

/-- The daemon set `agent` on the node `eu.node-1`. -/
def plain : Host := derive .daemonSet "agent" "agent-x7" "eu.node-1"

/-- The daemon set `agent.eu` on the node `node-1`. -/
def regional : Host := derive .daemonSet "agent.eu" "agent.eu-q2" "node-1"

end Agents

theorem shares_repository_iff_agents :
    Agents.plain.path .smart ≠ Agents.regional.path .smart ∧
      ∃ repository,
        Agents.plain.RecordsOn "apps" (Agents.configuration "agent") repository ∧
        Agents.regional.RecordsOn "apps" (Agents.configuration "agent.eu") repository := by
  have plain : Agents.plain.Derived := .intro _ (by decide) (by decide) (by decide)
  have regional : Agents.regional.Derived := .intro _ (by decide) (by decide) (by decide)
  obtain ⟨clashes, shares⟩ := shares_repository_iff plain regional .smart .smart
  obtain ⟨same, different⟩ := clashes.mpr (.inl (.shifted "agent" "eu" "node-1"))
  exact ⟨different, (shares "apps" _ _ rfl rfl).mpr same⟩

end Host

end ClusterBackup
