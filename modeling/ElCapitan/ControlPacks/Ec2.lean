import ElCapitan.ControlPacks.Models
import ElCapitan.Services.Reviews

/-!
# AWS EC2 security-group controls

The evaluators of the pack, over the captured ingress and egress rules, the name and the
use of one security group.
-/

namespace ElCapitan.AwsEc2

variable (L : PackLibrary)

/-- `_RULE_KEYS`. -/
def ruleKeys : List String := ["protocol", "from_port", "to_port", "ipv4_cidrs", "ipv6_cidrs"]

/-- `_HIGH_RISK_PORTS`. -/
def highRiskPorts : List ℤ := [25, 110, 135, 143, 445, 3000, 4333, 5000, 5500, 8080, 8088]

/-- `_PORT_CONTROLS`. -/
def portControls : List (String × List ℤ × String) :=
  [("ec2_securitygroup_allow_ingress_from_internet_to_tcp_port_22", [22], "SSH"),
    ("ec2_securitygroup_allow_ingress_from_internet_to_tcp_port_3389", [3389], "RDP"),
    ("ec2_securitygroup_allow_ingress_from_internet_to_tcp_port_cassandra_7199_9160_8888",
      [7199, 9160, 8888], "Cassandra"),
    ("ec2_securitygroup_allow_ingress_from_internet_to_tcp_port_elasticsearch_kibana_9200_9300_5601",
      [9200, 9300, 5601], "Elasticsearch/Kibana"),
    ("ec2_securitygroup_allow_ingress_from_internet_to_tcp_port_ftp_20_21", [20, 21], "FTP"),
    ("ec2_securitygroup_allow_ingress_from_internet_to_tcp_port_kafka_9092", [9092], "Kafka"),
    ("ec2_securitygroup_allow_ingress_from_internet_to_tcp_port_memcached_11211", [11211],
      "Memcached"),
    ("ec2_securitygroup_allow_ingress_from_internet_to_tcp_port_mongodb_27017_27018",
      [27017, 27018], "MongoDB"),
    ("ec2_securitygroup_allow_ingress_from_internet_to_tcp_port_mysql_3306", [3306], "MySQL"),
    ("ec2_securitygroup_allow_ingress_from_internet_to_tcp_port_oracle_1521_2483",
      [1521, 2483], "Oracle"),
    ("ec2_securitygroup_allow_ingress_from_internet_to_tcp_port_postgres_5432", [5432],
      "PostgreSQL"),
    ("ec2_securitygroup_allow_ingress_from_internet_to_tcp_port_redis_6379", [6379], "Redis"),
    ("ec2_securitygroup_allow_ingress_from_internet_to_tcp_port_sql_server_1433_1434",
      [1433, 1434], "SQL Server"),
    ("ec2_securitygroup_allow_ingress_from_internet_to_tcp_port_telnet_23", [23], "Telnet")]

/-- A rule of a security group that passed the checks of `_rules`. -/
structure Rule where
  protocol : String
  /-- `from_port` and `to_port`, which are both given or both `None`. -/
  ports : Option (ℤ × ℤ)
  ipv4Cidrs : List String
  ipv6Cidrs : List String

/-- `_bool`. -/
def bool (values : Document) (aspect : String) : Except PyError Bool :=
  requireBool L "EC2" values aspect

/-- `_name`. -/
def name (values : Document) : Except PyError String := do
  let value ← require values "ec2_sg_name"
  textOr (valueError ("live EC2 state has invalid security-group name " ++ L.repr value)) value

/-- The checks of `_rules` on a port range. -/
def portRange (start stop : Json) : Except PyError (Option (ℤ × ℤ)) :=
  let invalid : PyError := valueError ("live EC2 state has invalid port range " ++
    L.repr start ++ "-" ++ L.repr stop)
  match start, stop with
  | .null, .null => .ok none
  | .null, _ | _, .null => .error (valueError "live EC2 state has an incomplete port range")
  | .int first, .int last =>
    if first < -1 ∨ last > 65535 ∨ first > last then .error invalid else .ok (some (first, last))
  | _, _ => .error invalid

/-- The checks of `_rules` on one address list. -/
def cidrList (rule : Document) (field : String) (version : ℕ) : Except PyError (List String) := do
  let invalid : PyError :=
    valueError ("live EC2 state has invalid " ++ field ++ " " ++ L.repr (rule.get field))
  let items ← listOr invalid (rule.get field)
  let cidrs ← items.mapM (textOr invalid)
  raiseIf (¬cidrs.Nodup) invalid
  cidrs.mapM fun cidr => do
    match L.ipNetwork cidr with
    | none => .error (valueError ("live EC2 state has invalid CIDR " ++ L.repr (.str cidr)))
    | some network =>
      raiseIf (network.version ≠ version) (valueError ("live EC2 state has invalid " ++ field ++
        " CIDR " ++ L.repr (.str cidr)))
      return cidr

/-- The checks of `_rules` on one rule. -/
def checkRule (aspect : String) (rule : Json) : Except PyError Rule := do
  let invalid : PyError :=
    valueError ("live EC2 state has invalid " ++ aspect ++ " rule " ++ L.repr rule)
  let document ← dictOr invalid rule
  raiseIf (document.hasExactly ruleKeys = false) invalid
  let protocol ← textOr (valueError ("live EC2 state has invalid rule protocol " ++
    L.repr (document.get "protocol"))) (document.get "protocol")
  let ports ← portRange L (document.get "from_port") (document.get "to_port")
  let ipv4Cidrs ← cidrList L document "ipv4_cidrs" 4
  let ipv6Cidrs ← cidrList L document "ipv6_cidrs" 6
  return { protocol, ports, ipv4Cidrs, ipv6Cidrs }

/-- `_rules`. -/
def rules (values : Document) (aspect : String) : Except PyError (List Rule) := do
  let value ← require values aspect
  let items ← listOr (invalidAspect L "EC2" aspect value) value
  items.mapM (checkRule L aspect)

/-- `_wildcard`. -/
def wildcard (rule : Rule) : Bool :=
  rule.ipv4Cidrs.contains "0.0.0.0/0" || rule.ipv6Cidrs.contains "::/0"

/-- `_opens_all_ports`. -/
def opensAllPorts (rule : Rule) : Bool :=
  wildcard rule && (rule.protocol == "-1" || rule.ports == some (0, 65535))

/-- `_in_scope`. -/
def inScope (values : Document) : Except PyError Bool := bool L values "ec2_sg_in_use"

/-- The decision on a security group that nothing uses. -/
def unused : ControlEvaluation :=
  ⟨false, "security group is unused and excluded by Prowler's default scope"⟩

/-- `_all_ports`. -/
def allPorts (values : Document) : Except PyError ControlEvaluation := do
  let rules ← rules L values "ec2_sg_ingress_rules"
  let used ← inScope L values
  if used then
    let exposed := rules.any opensAllPorts
    return ⟨exposed, if exposed then
      "security group exposes all ports to a wildcard internet CIDR"
      else "security group does not expose all ports to the internet"⟩
  else return unused

/-- Does a rule open one of the ports to the internet over TCP? -/
def exposes (ports : List ℤ) (rule : Rule) : Bool :=
  wildcard rule && rule.protocol == "tcp" && rule.ports.any fun range =>
    ports.any fun port => decide (range.1 ≤ port ∧ port ≤ range.2)

/-- `_ports_evaluator`. -/
def portsEvaluator (ports : List ℤ) (label : String) (values : Document) :
    Except PyError ControlEvaluation := do
  let rules ← rules L values "ec2_sg_ingress_rules"
  let used ← inScope L values
  if used then
    if rules.any opensAllPorts then
      return ⟨false, "Prowler suppresses the specific-port finding when its " ++
        "all-ports control is active"⟩
    else
      let exposed := rules.any (exposes ports)
      return ⟨exposed, if exposed then
        "security group exposes " ++ label ++ " TCP port(s) to the internet"
        else "security group does not expose " ++ label ++ " TCP port(s) to the internet"⟩
  else return unused

/-- `_high_risk`. -/
def highRisk : Document → Except PyError ControlEvaluation :=
  portsEvaluator L highRiskPorts "configured high-risk"

/-- Is an address range globally routable and broader than /24? -/
def broadPublic (cidr : String) : Except PyError Bool :=
  match L.ipNetwork cidr with
  | none => .error (valueError (L.repr (.str cidr) ++
      " does not appear to be an IPv4 or IPv6 network"))
  | some network => .ok (network.isGlobal && decide (0 < network.prefixLength) &&
      decide (network.prefixLength < 24))

/-- `_wide_open_public_ipv4`. -/
def wideOpenPublicIpv4 (values : Document) : Except PyError ControlEvaluation := do
  let ingress ← rules L values "ec2_sg_ingress_rules"
  let egress ← rules L values "ec2_sg_egress_rules"
  let used ← inScope L values
  if used then do
    let exposed ← ((ingress ++ egress).flatMap Rule.ipv4Cidrs).anyM (broadPublic L)
    return ⟨exposed, if exposed then
      "security group contains a globally routable IPv4 range broader than /24"
      else "security group has no globally routable IPv4 range broader than /24"⟩
  else return unused

/-- `_default_restrict`. -/
def defaultRestrict (values : Document) : Except PyError ControlEvaluation := do
  let ingress ← rules L values "ec2_sg_ingress_rules"
  let egress ← rules L values "ec2_sg_egress_rules"
  let name ← name L values
  let used ← inScope L values
  if used = false ∨ name ≠ "default" then
    return ⟨false, "control applies only to an in-use default security group"⟩
  else
    let allowsTraffic := !ingress.isEmpty || !egress.isEmpty
    return ⟨allowsTraffic, if allowsTraffic then "default security group has traffic rules"
      else "default security group has no traffic rules"⟩

/-- `_many_rules`. -/
def manyRules (values : Document) : Except PyError ControlEvaluation := do
  let ingress ← rules L values "ec2_sg_ingress_rules"
  let egress ← rules L values "ec2_sg_egress_rules"
  return ⟨decide (50 < ingress.length ∨ 50 < egress.length),
    "security group has " ++ toString ingress.length ++ " ingress and " ++
      toString egress.length ++ " egress permission entries"⟩

/-- `_launch_wizard`. -/
def launchWizard (values : Document) : Except PyError ControlEvaluation := do
  let name ← name L values
  return ⟨containsText "launch-wizard".toList name.toList,
    "security-group name is " ++ L.repr (.str name)⟩

/-- `_control`. -/
def control (ruleId : String) (aspects : List String)
    (evaluator : Document → Except PyError ControlEvaluation) : ControlDefinition where
  packId := "aws-ec2-security-group"
  provider := "aws"
  ruleId := ruleId
  resourceFamily := "ec2_security_group"
  resourceTypes := ["awsec2securitygroup"]
  liveValidation := true
  remediationPlanning := false
  liveExecution := false
  evidenceAspects := aspects
  evaluator := evaluator
  evidenceGrade := "contract_tested"

/-- `_INGRESS_SCOPE`. -/
def ingressScope : List String := ["ec2_sg_in_use", "ec2_sg_ingress_rules"]

/-- `AWS_EC2_SECURITY_GROUP_PACK`. -/
def pack : ControlPack where
  packId := "aws-ec2-security-group"
  controls :=
    [control "ec2_securitygroup_allow_ingress_from_internet_to_all_ports" ingressScope
        (allPorts L),
      control "ec2_securitygroup_allow_ingress_from_internet_to_high_risk_tcp_ports"
        ingressScope (highRisk L)] ++
    portControls.map (fun entry =>
      control entry.1 ingressScope (portsEvaluator L entry.2.1 entry.2.2)) ++
    [control "ec2_securitygroup_allow_wide_open_public_ipv4"
        ["ec2_sg_in_use", "ec2_sg_ingress_rules", "ec2_sg_egress_rules"] (wideOpenPublicIpv4 L),
      control "ec2_securitygroup_default_restrict_traffic"
        ["ec2_sg_in_use", "ec2_sg_name", "ec2_sg_ingress_rules", "ec2_sg_egress_rules"]
        (defaultRestrict L),
      control "ec2_securitygroup_from_launch_wizard" ["ec2_sg_name"] (launchWizard L),
      control "ec2_securitygroup_with_many_ingress_egress_rules"
        ["ec2_sg_ingress_rules", "ec2_sg_egress_rules"] (manyRules L)]
  evidenceGrade := "contract_tested"

section declared

variable {L} {aspects : List String}

/-- Reading a range of ports raises value errors only. -/
theorem raises_portRange (start stop : Json) : Raises IsValueError (portRange L start stop) := by
  unfold portRange
  split
  · exact raises_ok _
  · exact raises_valueError _
  · exact raises_valueError _
  · apply raises_ite
    · exact raises_valueError _
    · exact raises_ok _
  · exact raises_valueError _

/-- Reading the networks of a rule raises value errors only. -/
theorem raises_cidrList (rule : Document) (field : String) (version : ℕ) :
    Raises IsValueError (cidrList L rule field version) := by
  unfold cidrList
  apply raises_bind (raises_listOr (isValueError_valueError _) _)
  intro items
  apply raises_bind
  · apply raises_mapM
    intro item
    exact raises_textOr (isValueError_valueError _) item
  intro cidrs
  apply raises_bind (raises_raiseIf (isValueError_valueError _))
  intro _
  apply raises_mapM
  intro cidr
  split
  · exact raises_valueError _
  · apply raises_bind (raises_raiseIf (isValueError_valueError _))
    intro _
    exact raises_pure _

/-- The checks on a rule raise only what the pack promises. -/
theorem raises_checkRule (aspect : String) (rule : Json) :
    Raises IsValueError (checkRule L aspect rule) := by
  unfold checkRule
  apply raises_bind (raises_dictOr (isValueError_valueError _) _)
  intro document
  apply raises_bind (raises_raiseIf (isValueError_valueError _))
  intro _
  apply raises_bind (raises_textOr (isValueError_valueError _) _)
  intro protocol
  apply raises_bind (raises_portRange _ _)
  intro ports
  apply raises_bind (raises_cidrList document "ipv4_cidrs" 4)
  intro ipv4Cidrs
  apply raises_bind (raises_cidrList document "ipv6_cidrs" 6)
  intro ipv6Cidrs
  exact raises_pure _

/-- Reading declared rules reads declared aspects only. -/
theorem declared_rules {aspect : String} (h : aspect ∈ aspects) :
    Declared aspects fun values => rules L values aspect := by
  apply declared_judge h
  intro value
  apply raises_bind (raises_listOr (isValueError_valueError _) value)
  intro items
  apply raises_mapM
  intro item
  exact raises_checkRule aspect item

/-- Reading the name reads the name alone. -/
theorem declared_name (h : "ec2_sg_name" ∈ aspects) : Declared aspects (name L) := by
  apply declared_judge h
  intro value
  exact raises_textOr (isValueError_valueError _) value

/-- Whether the group is in use reads its usage alone. -/
theorem declared_inScope (h : "ec2_sg_in_use" ∈ aspects) : Declared aspects (inScope L) :=
  declared_requireBool h

/-- The all-ports evaluator reads the ingress rules and the usage. -/
theorem declared_allPorts (hrules : "ec2_sg_ingress_rules" ∈ aspects)
    (huse : "ec2_sg_in_use" ∈ aspects) : Declared aspects (allPorts L) := by
  apply confined_bind (declared_rules hrules)
  intro rules
  apply confined_bind (declared_inScope huse)
  intro used
  apply confined_ite
  · exact confined_const (raises_pure _)
  · exact confined_const (raises_pure _)

/-- An evaluator of ports reads the ingress rules and the usage. -/
theorem declared_portsEvaluator (ports : List ℤ) (label : String)
    (hrules : "ec2_sg_ingress_rules" ∈ aspects) (huse : "ec2_sg_in_use" ∈ aspects) :
    Declared aspects (portsEvaluator L ports label) := by
  apply confined_bind (declared_rules hrules)
  intro rules
  apply confined_bind (declared_inScope huse)
  intro used
  apply confined_ite
  · apply confined_ite
    · exact confined_const (raises_pure _)
    · exact confined_const (raises_pure _)
  · exact confined_const (raises_pure _)

/-- Reading a network raises value errors only. -/
theorem raises_broadPublic (cidr : String) : Raises IsValueError (broadPublic L cidr) := by
  unfold broadPublic
  split
  · exact raises_valueError _
  · exact raises_ok _

/-- The wide-open evaluator reads both kinds of rules and the usage. -/
theorem declared_wideOpenPublicIpv4 (hingress : "ec2_sg_ingress_rules" ∈ aspects)
    (hegress : "ec2_sg_egress_rules" ∈ aspects) (huse : "ec2_sg_in_use" ∈ aspects) :
    Declared aspects (wideOpenPublicIpv4 L) := by
  apply confined_bind (declared_rules hingress)
  intro ingress
  apply confined_bind (declared_rules hegress)
  intro egress
  apply confined_bind (declared_inScope huse)
  intro used
  apply confined_ite
  · apply confined_const
    apply raises_bind (raises_anyM raises_broadPublic _)
    intro exposed
    exact raises_pure _
  · exact confined_const (raises_pure _)

/-- The default group evaluator reads both kinds of rules, the name and the usage. -/
theorem declared_defaultRestrict (hingress : "ec2_sg_ingress_rules" ∈ aspects)
    (hegress : "ec2_sg_egress_rules" ∈ aspects) (hname : "ec2_sg_name" ∈ aspects)
    (huse : "ec2_sg_in_use" ∈ aspects) : Declared aspects (defaultRestrict L) := by
  apply confined_bind (declared_rules hingress)
  intro ingress
  apply confined_bind (declared_rules hegress)
  intro egress
  apply confined_bind (declared_name hname)
  intro name
  apply confined_bind (declared_inScope huse)
  intro used
  apply confined_ite
  · exact confined_const (raises_pure _)
  · exact confined_const (raises_pure _)

/-- The evaluator of many rules reads both kinds of rules. -/
theorem declared_manyRules (hingress : "ec2_sg_ingress_rules" ∈ aspects)
    (hegress : "ec2_sg_egress_rules" ∈ aspects) : Declared aspects (manyRules L) := by
  apply confined_bind (declared_rules hingress)
  intro ingress
  apply confined_bind (declared_rules hegress)
  intro egress
  exact confined_const (raises_pure _)

/-- The launch wizard evaluator reads the name alone. -/
theorem declared_launchWizard (hname : "ec2_sg_name" ∈ aspects) :
    Declared aspects (launchWizard L) := by
  apply confined_bind (declared_name hname)
  intro name
  exact confined_const (raises_pure _)

/-- Every control of the pack decides from its declared aspects. -/
theorem pack_declared {definition : ControlDefinition} (h : definition ∈ (pack L).registered) :
    Declared definition.evidenceAspects definition.evaluator := by
  apply registered_declared _ h
  intro given hgiven
  simp only [pack, List.mem_append, List.mem_cons, List.mem_map, List.not_mem_nil,
    or_false] at hgiven
  obtain ((rfl | rfl) | ⟨entry, -, rfl⟩) | rfl | rfl | rfl | rfl := hgiven
  · apply declared_allPorts <;> simp [control, ingressScope]
  · apply declared_portsEvaluator <;> simp [control, ingressScope]
  · apply declared_portsEvaluator <;> simp [control, ingressScope]
  · apply declared_wideOpenPublicIpv4 <;> simp [control]
  · apply declared_defaultRestrict <;> simp [control]
  · apply declared_launchWizard
    simp [control]
  · apply declared_manyRules <;> simp [control]

end declared

end ElCapitan.AwsEc2
