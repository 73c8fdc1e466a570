import PhantomFlow.Analysis.RelationshipAnalyzer
import PhantomFlow.Library.Machine
import Mathlib.Data.List.Dedup
import Mathlib.Data.Rat.Floor
import Mathlib.Tactic.Linarith
import Mathlib.Tactic.NormNum

namespace PhantomFlow.Analysis
open Library Library.Machine

structure GeoLocation where
  country : String
  region : String
  city : String
  deriving DecidableEq

structure GeographicCluster where
  country : String
  region : String
  city : String
  ipAddresses : List String
  threatLevel : ℚ
  attackPatterns : List String
  deriving DecidableEq

inductive AttackSeverity where
  | low
  | medium
  | high
  | critical
  deriving DecidableEq

structure CoordinatedAttack where
  attackId : String
  participants : List String
  attackType : String
  startTime : ℤ
  severity : AttackSeverity
  patterns : List String
  confidence : ℚ
  deriving DecidableEq

structure RelationshipAnalyzer where
  networkGraph : NetworkGraph
  geographicClusters : OrderedMap String GeographicCluster
  coordinatedAttacks : OrderedMap String CoordinatedAttack
  relationshipCache : OrderedMap String (List ℚ)
  deriving DecidableEq

namespace RelationshipAnalyzer

def create : RelationshipAnalyzer := ⟨.empty,.empty,.empty,.empty⟩

-- The simplified queries, without a database behind them. The loops of
-- `updateNetworkRelationships` and `updateUserRelationships` run over such a list.
def getRecentRequests : List String := []
def getRecentRequestsFromIPs (_ips : List String) : List String := []
def isSuspiciousRequest (_ipAddress : String) : Bool := false

-- What the lookup of an address says: one package, one database, loaded once.
variable (lookup : String → Option GeoLocation) (s : RelationshipAnalyzer)

def clusterKey (geo : GeoLocation) : String := geo.country ++ "-" ++ geo.region ++ "-" ++ geo.city

def calculateGeographicThreatLevel (cluster : GeographicCluster) (ipAddress : String) : ℚ :=
  let suspicious := if isSuspiciousRequest ipAddress then cluster.threatLevel + 1/10 else cluster.threatLevel
  let crowded := if cluster.ipAddresses.length > 10 then suspicious + 5/100 else suspicious
  min crowded 1

def updateGeographicClusters (ipAddress : String) : RelationshipAnalyzer :=
  match lookup ipAddress with
  | none => s
  | some geo =>
    let cluster := (s.geographicClusters.get (clusterKey geo)).getD
      ⟨geo.country,geo.region,geo.city,[],0,[]⟩
    let joined := { cluster with
      ipAddresses :=
        if ipAddress ∈ cluster.ipAddresses then cluster.ipAddresses else cluster.ipAddresses ++ [ipAddress] }
    let updated := { joined with threatLevel := calculateGeographicThreatLevel joined ipAddress }
    { s with geographicClusters := s.geographicClusters.set (clusterKey geo) updated }

def analyzeAttackPatterns (relatedIPs : List String) : List String :=
  let recentRequests := getRecentRequestsFromIPs relatedIPs
  (if relatedIPs.length > 5 then ["ddos"] else []) ++ (if recentRequests.length > 100 then ["brute_force"] else []) ++
    if recentRequests.dedup.length > 50 then ["port_scanning"] else []

def determineAttackSeverity (patterns : List String) : AttackSeverity :=
  if "ddos" ∈ patterns then .critical
  else if "brute_force" ∈ patterns then .high
  else if "port_scanning" ∈ patterns then .medium
  else .low

def calculateAttackConfidence (relatedIPs patterns : List String) : ℚ :=
  min (min ((relatedIPs.length : ℚ) / 10) (4/10) + patterns.length * (2/10)) 1

-- The attack of the answer, and the analyzer with it where it is new. `attackId` is the
-- text of the clock and of the random number.
def detectCoordinatedAttacks (sourceIP attackId : String) (timestamp : ℤ) :
    RelationshipAnalyzer × Option CoordinatedAttack :=
  match s.coordinatedAttacks.values.find? (fun attack => sourceIP ∈ attack.participants) with
  | some attack => (s,some attack)
  | none =>
    let relatedIPs := s.networkGraph.findRelatedIPs sourceIP
    let attackPatterns := analyzeAttackPatterns relatedIPs
    if relatedIPs.length ≥ 3 then
      match attackPatterns with
      | [] => (s,none)
      | attackType :: _ =>
        let attack : CoordinatedAttack := {
          attackId := attackId
          participants := sourceIP :: relatedIPs
          attackType := attackType
          startTime := timestamp
          severity := determineAttackSeverity attackPatterns
          patterns := attackPatterns
          confidence := calculateAttackConfidence relatedIPs attackPatterns }
        ({ s with coordinatedAttacks := s.coordinatedAttacks.set attackId attack },some attack)
    else (s,none)

def severityRisk : AttackSeverity → ℚ
  | .critical => 8/10
  | .high => 6/10
  | .medium => 4/10
  | .low => 2/10

def calculateRelationshipRisk (ipAddress : String) (coordinatedAttack : Option CoordinatedAttack) : ℚ :=
  let attackRisk := match coordinatedAttack with
    | none => 0
    | some attack => severityRisk attack.severity
  let strengths := (s.relationshipCache.get ipAddress).getD []
  let networkRisk := if strengths.length > 0 then strengths.sum / strengths.length * (3/10) else 0
  let geographicRisk := match lookup ipAddress with
    | none => 0
    | some geo =>
      match s.geographicClusters.get (clusterKey geo) with
      | none => 0
      | some cluster => if cluster.threatLevel > 5/10 then cluster.threatLevel * (2/10) else 0
  min (attackRisk + networkRisk + geographicRisk) 1

end RelationshipAnalyzer

-- The synchronous parts of the calls of `analyze`, which other calls come between: the
-- update of the clusters, and the detection with the score.
inductive RelationshipEvent where
  | cluster (ipAddress : String)
  | score (ipAddress attackId : String) (timestamp : ℤ)
  deriving DecidableEq

namespace RelationshipAnalyzer

def step (lookup : String → Option GeoLocation) (s : RelationshipAnalyzer) :
    RelationshipEvent → RelationshipAnalyzer × Option ℚ
  | .cluster ipAddress => (s.updateGeographicClusters lookup ipAddress,none)
  | .score ipAddress attackId timestamp =>
    let detected := s.detectCoordinatedAttacks ipAddress attackId timestamp
    (detected.1,some (detected.1.calculateRelationshipRisk lookup ipAddress detected.2))

variable {lookup : String → Option GeoLocation}

def requestsFrom (lookup : String → Option GeoLocation) (key : String) (events : List RelationshipEvent) :
    List String :=
  events.filterMap (fun event => match event with
    | .cluster ipAddress => if (lookup ipAddress).map clusterKey = some key then some ipAddress else none
    | .score _ _ _ => none)

def crowdedRequests (ips : List String) : ℕ := ips.inits.countP (fun start => decide (10 < start.dedup.length))

theorem crowdedRequests_snoc (ips : List String) (ip : String) :
    crowdedRequests (ips ++ [ip]) = crowdedRequests ips + if 10 < (ips ++ [ip]).dedup.length then 1 else 0 := by
  unfold crowdedRequests
  rw [List.inits_append,List.countP_append]
  congr 1
  simp [List.countP_cons]

theorem requestsFrom_snoc (key : String) (events : List RelationshipEvent) (event : RelationshipEvent) :
    requestsFrom lookup key (events ++ [event]) = requestsFrom lookup key events ++ requestsFrom lookup key [event] :=
  List.filterMap_append

structure ClusterOf (ips : List String) (cluster : GeographicCluster) : Prop where
  distinct : cluster.ipAddresses.Nodup
  members : ∀ ip, ip ∈ cluster.ipAddresses ↔ ip ∈ ips
  threatLevel : cluster.threatLevel = min ((crowdedRequests ips : ℚ) * (5/100)) 1

theorem threatLevel_joined (known : cluster.threatLevel = min ((crowdedRequests ips : ℚ) * (5/100)) 1)
    (size : cluster.ipAddresses.length = (ips ++ [ip]).dedup.length) :
    calculateGeographicThreatLevel cluster ip = min ((crowdedRequests (ips ++ [ip]) : ℚ) * (5/100)) 1 := by
  unfold calculateGeographicThreatLevel isSuspiciousRequest
  rw [if_neg Bool.false_ne_true,size,known,crowdedRequests_snoc]
  dsimp only [gt_iff_lt]
  have nonneg : (0 : ℚ) ≤ crowdedRequests ips := Nat.cast_nonneg _
  by_cases crowded : 10 < (ips ++ [ip]).dedup.length
  · rw [if_pos crowded,if_pos crowded]
    push_cast
    rcases le_total ((crowdedRequests ips : ℚ) * (5/100)) 1 with less | more
    · rw [min_eq_left less,add_mul,one_mul]
    · rw [min_eq_right more,min_eq_right (by norm_num),min_eq_right (by linarith)]
  · rw [if_neg crowded,if_neg crowded,add_zero,min_eq_left (min_le_right _ _)]

-- The maps of the analyzer after some events: no edge, no attack, and the clusters as
-- the requests have left them.
structure Follows (lookup : String → Option GeoLocation) (s : RelationshipAnalyzer)
    (events : List RelationshipEvent) : Prop where
  networkGraph : s.networkGraph = .empty
  coordinatedAttacks : s.coordinatedAttacks = .empty
  relationshipCache : s.relationshipCache = .empty
  absent : ∀ key, s.geographicClusters.get key = none → requestsFrom lookup key events = []
  clusters : ∀ key cluster, s.geographicClusters.get key = some cluster →
    ClusterOf (requestsFrom lookup key events) cluster

theorem requestsFrom_score (key ipAddress attackId : String) (timestamp : ℤ) :
    requestsFrom lookup key [.score ipAddress attackId timestamp] = [] := rfl

theorem requestsFrom_cluster (key ipAddress : String) :
    requestsFrom lookup key [.cluster ipAddress] =
      if (lookup ipAddress).map clusterKey = some key then [ipAddress] else [] := by
  unfold requestsFrom
  split
  · rename_i same
    rw [List.filterMap_cons_some (by dsimp only; rw [if_pos same])]
    rfl
  · rename_i other
    rw [List.filterMap_cons_none (by dsimp only; rw [if_neg other])]
    rfl

theorem clusterOf_joined (known : ClusterOf ips cluster) (ip : String) (place : GeographicCluster)
    (addresses : place.ipAddresses =
      if ip ∈ cluster.ipAddresses then cluster.ipAddresses else cluster.ipAddresses ++ [ip])
    (before : place.threatLevel = cluster.threatLevel) :
    ClusterOf (ips ++ [ip]) { place with threatLevel := calculateGeographicThreatLevel place ip } := by
  have distinct : place.ipAddresses.Nodup := by
    rw [addresses]
    split
    · exact known.distinct
    · rename_i absent
      exact List.nodup_append.mpr ⟨known.distinct,List.nodup_singleton ip,fun x here y there same =>
        absent (List.mem_singleton.mp there ▸ same ▸ here)⟩
  have members : ∀ x, x ∈ place.ipAddresses ↔ x ∈ ips ++ [ip] := by
    intro x
    rw [addresses,List.mem_append,List.mem_singleton,← known.members]
    split
    · rename_i present
      exact ⟨.inl,fun either => either.elim (fun here => here) (fun same => same ▸ present)⟩
    · rw [List.mem_append,List.mem_singleton]
  have size : place.ipAddresses.length = (ips ++ [ip]).dedup.length := by
    refine List.Perm.length_eq ((List.perm_ext_iff_of_nodup distinct (List.nodup_dedup _)).mpr fun x => ?_)
    rw [members,List.mem_dedup]
  exact ⟨distinct,members,threatLevel_joined (before.trans known.threatLevel) size⟩

theorem clusterOf_fresh (geo : GeoLocation) : ClusterOf [] ⟨geo.country,geo.region,geo.city,[],0,[]⟩ := by
  refine ⟨List.nodup_nil,fun ip => Iff.rfl,?_⟩
  norm_num [crowdedRequests]

theorem follows_create : Follows lookup create [] :=
  ⟨rfl,rfl,rfl,fun _ _ => rfl,fun _ _ found => by cases found⟩

section Steps
variable {s : RelationshipAnalyzer} {events : List RelationshipEvent}

theorem follows_cluster (follows : Follows lookup s events) (ipAddress : String) :
    Follows lookup (s.updateGeographicClusters lookup ipAddress) (events ++ [.cluster ipAddress]) := by
  unfold updateGeographicClusters
  cases place : lookup ipAddress with
  | none =>
      have same : ∀ key, requestsFrom lookup key (events ++ [.cluster ipAddress]) = requestsFrom lookup key events := by
        intro key
        rw [requestsFrom_snoc,requestsFrom_cluster,place,if_neg (by simp),List.append_nil]
      exact { follows with
        absent := fun key missing => (same key).trans (follows.absent key missing)
        clusters := fun key cluster found => (same key).symm ▸ follows.clusters key cluster found }
  | some geo =>
      have start : ClusterOf (requestsFrom lookup (clusterKey geo) events)
          ((s.geographicClusters.get (clusterKey geo)).getD ⟨geo.country,geo.region,geo.city,[],0,[]⟩) := by
        cases found : s.geographicClusters.get (clusterKey geo) with
        | none =>
            rw [follows.absent _ found]
            exact clusterOf_fresh geo
        | some cluster => exact follows.clusters _ cluster found
      refine { follows with absent := fun key missing => ?_, clusters := fun key cluster found => ?_ }
      · by_cases same : key = clusterKey geo
        · subst key
          rw [OrderedMap.get_set_self] at missing
          cases missing
        · rw [OrderedMap.get_set_other _ _ same] at missing
          rw [requestsFrom_snoc,requestsFrom_cluster,place,if_neg (by simpa using Ne.symm same),List.append_nil]
          exact follows.absent key missing
      · by_cases same : key = clusterKey geo
        · subst key
          rw [OrderedMap.get_set_self] at found
          rw [requestsFrom_snoc,requestsFrom_cluster,place,Option.map_some,if_pos rfl,← Option.some.inj found]
          exact clusterOf_joined start ipAddress _ rfl rfl
        · rw [OrderedMap.get_set_other _ _ same] at found
          rw [requestsFrom_snoc,requestsFrom_cluster,place,if_neg (by simpa using Ne.symm same),List.append_nil]
          exact follows.clusters key cluster found

theorem detect_nothing (follows : Follows lookup s events) (sourceIP attackId : String) (timestamp : ℤ) :
    s.detectCoordinatedAttacks sourceIP attackId timestamp = (s,none) := by
  unfold detectCoordinatedAttacks
  rw [follows.coordinatedAttacks,follows.networkGraph]
  rfl

theorem follows_step (follows : Follows lookup s events) (event : RelationshipEvent) :
    Follows lookup (step lookup s event).1 (events ++ [event]) := by
  cases event with
  | cluster ipAddress => exact follows_cluster follows ipAddress
  | score ipAddress attackId timestamp =>
      have same : ∀ key, requestsFrom lookup key (events ++ [.score ipAddress attackId timestamp]) =
          requestsFrom lookup key events := by
        intro key
        rw [requestsFrom_snoc,requestsFrom_score,List.append_nil]
      rw [step,detect_nothing follows]
      exact { follows with
        absent := fun key missing => (same key).trans (follows.absent key missing)
        clusters := fun key cluster found => (same key).symm ▸ follows.clusters key cluster found }

end Steps

theorem follows_run (events : List RelationshipEvent) : Follows lookup (exec (step lookup) create events).1 events := by
  induction events using List.reverseRecOn with
  | nil => exact follows_create
  | append_singleton events event ih =>
      rw [exec_snoc]
      exact follows_step ih event

def geographicRisk (lookup : String → Option GeoLocation) (ipAddress : String) (events : List RelationshipEvent) : ℚ :=
  match lookup ipAddress with
  | none => 0
  | some geo =>
    let crowded := crowdedRequests (requestsFrom lookup (clusterKey geo) events)
    if 10 < crowded then min ((crowded : ℚ) * (5/100)) 1 * (2/10) else 0

theorem geographicRisk_bounds (lookup : String → Option GeoLocation) (ipAddress : String)
    (events : List RelationshipEvent) :
    0 ≤ geographicRisk lookup ipAddress events ∧ geographicRisk lookup ipAddress events ≤ 2/10 := by
  unfold geographicRisk
  cases lookup ipAddress with
  | none => norm_num
  | some geo =>
      dsimp only
      have nonneg : 0 ≤ min ((crowdedRequests (requestsFrom lookup (clusterKey geo) events) : ℚ) * (5/100)) 1 :=
        le_min (mul_nonneg (Nat.cast_nonneg _) (by norm_num)) zero_le_one
      have most : min ((crowdedRequests (requestsFrom lookup (clusterKey geo) events) : ℚ) * (5/100)) 1 ≤ 1 :=
        min_le_right _ _
      split <;> constructor <;> linarith

theorem follows_score (follows : Follows lookup s events) (ipAddress attackId : String) (timestamp : ℤ) :
    (step lookup s (.score ipAddress attackId timestamp)).2 = some (geographicRisk lookup ipAddress events) := by
  have bounds := geographicRisk_bounds lookup ipAddress events
  rw [step,detect_nothing follows]
  refine congrArg some ?_
  unfold calculateRelationshipRisk
  rw [follows.relationshipCache]
  have only : ∀ risk : ℚ, risk ≤ 2/10 → min (0 + 0 + risk) 1 = risk := fun risk most => by
    rw [add_zero,zero_add,min_eq_left (by linarith)]
  refine Eq.trans ?_ (only _ bounds.2)
  unfold geographicRisk
  cases lookup ipAddress with
  | none => rfl
  | some geo =>
      dsimp only
      cases found : s.geographicClusters.get (clusterKey geo) with
      | none =>
          rw [follows.absent _ found]
          rfl
      | some cluster =>
          dsimp only
          rw [(follows.clusters _ cluster found).threatLevel]
          by_cases many : 10 < crowdedRequests (requestsFrom lookup (clusterKey geo) events)
          · have above : (11 : ℚ) ≤ crowdedRequests (requestsFrom lookup (clusterKey geo) events) := by exact_mod_cast many
            rw [if_pos many,if_pos (lt_min (by linarith) (by norm_num))]
            rfl
          · have below : (crowdedRequests (requestsFrom lookup (clusterKey geo) events) : ℚ) ≤ 10 := by
              exact_mod_cast not_lt.mp many
            rw [if_neg many,if_neg (not_lt.mpr ((min_le_left _ _).trans (by linarith)))]
            rfl

-- Whatever calls come between, no coordinated attack is ever found, and the score of a
-- request counts the requests of its place from the eleventh address there on: 0 for the
-- first ten of them, then 0.01 for each, those ten included, and 0.2 at most.
theorem relationship_score_exact (events : List RelationshipEvent) (ipAddress attackId : String) (timestamp : ℤ) :
    (exec (step lookup) create events).1.coordinatedAttacks = .empty ∧
      (step lookup (exec (step lookup) create events).1 (.score ipAddress attackId timestamp)).2 =
        some (geographicRisk lookup ipAddress events) ∧
      0 ≤ geographicRisk lookup ipAddress events ∧ geographicRisk lookup ipAddress events ≤ 2/10 := by
  have follows : Follows lookup _ events := follows_run events
  exact ⟨follows.coordinatedAttacks,follows_score follows ipAddress attackId timestamp,
    geographicRisk_bounds lookup ipAddress events⟩

end RelationshipAnalyzer
end PhantomFlow.Analysis
