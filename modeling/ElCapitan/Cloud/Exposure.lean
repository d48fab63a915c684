import ElCapitan.Cloud.Ec2Permissions

/-!
# Exposure to the internet

The port controls of a security group stand down when its all-ports control is active, so no
control is monotone alone. The two together confirm exactly the groups with a rule that opens
all ports or one of the control's ports: whatever admits a port is found, and a further rule
never hides it. The same holds from the permissions of a `DescribeSecurityGroups` answer.
-/

namespace ElCapitan.Exposure

open AwsEc2 Ec2Permissions

section captured

variable {L : PackLibrary} {ports : List ℤ} {label : String} {values : Document}
variable {ingress : List Rule} {port : ℤ}

/-- An evaluator confirms its control. -/
def Confirms (evaluate : Document → Except PyError ControlEvaluation) (values : Document) :
    Prop :=
  ∃ reason, evaluate values = .ok ⟨true, reason⟩

/-- The all-ports control or the control of the given ports is confirmed. -/
def Exposed (L : PackLibrary) (ports : List ℤ) (label : String) (values : Document) : Prop :=
  Confirms (allPorts L) values ∨ Confirms (portsEvaluator L ports label) values

/-- The captured state of a security group in use, with valid ingress rules. -/
structure InUse (L : PackLibrary) (values : Document) (ingress : List Rule) : Prop where
  used : values.lookup "ec2_sg_in_use" = some (.bool true)
  ingress : rules L values "ec2_sg_ingress_rules" = .ok ingress

/-- A rule admits traffic from the whole internet to a TCP port. -/
def Admits (port : ℤ) (rule : Rule) : Prop :=
  ("0.0.0.0/0" ∈ rule.ipv4Cidrs ∨ "::/0" ∈ rule.ipv6Cidrs) ∧
    (rule.protocol = "-1" ∨ rule.protocol = "tcp" ∧
      ∃ first last, rule.ports = some (first, last) ∧ first ≤ port ∧ port ≤ last)

/-- A rule opens all ports, or one of the given ones, to the internet. -/
def opens (ports : List ℤ) (rule : Rule) : Bool := opensAllPorts rule || exposes ports rule

/-- A rule is a wildcard where it names one of the two networks of everything. -/
theorem wildcard_iff {rule : Rule} :
    wildcard rule = true ↔ "0.0.0.0/0" ∈ rule.ipv4Cidrs ∨ "::/0" ∈ rule.ipv6Cidrs := by
  simp [wildcard]

/-- What admits a port of a control is open for the control. -/
theorem opens_of_admits {rule : Rule} (hport : port ∈ ports) (hadmits : Admits port rule) :
    opens ports rule = true := by
  obtain ⟨hwild, hprotocol⟩ := hadmits
  have hwild := wildcard_iff.mpr hwild
  obtain hall | ⟨htcp, first, last, hrange, hfirst, hlast⟩ := hprotocol
  · simp [opens, opensAllPorts, hwild, hall]
  · have hopen : ports.any (fun port => decide (first ≤ port ∧ port ≤ last)) = true := by
      rw [List.any_eq_true]
      exact ⟨port, hport, decide_eq_true ⟨hfirst, hlast⟩⟩
    simp only [opens, exposes, hwild, htcp, hrange, Option.any_some, hopen]
    simp

/-- A group that is in use is in scope. -/
theorem inScope_of_inUse (h : InUse L values ingress) : inScope L values = .ok true := by
  simp [inScope, AwsEc2.bool, requireBool, require, h.used, boolOr, bind, Except.bind]

/-- The all-ports control is confirmed where a rule opens all ports. -/
theorem confirms_allPorts (h : InUse L values ingress) :
    Confirms (allPorts L) values ↔ ingress.any opensAllPorts = true := by
  unfold Confirms allPorts
  simp only [h.ingress, inScope_of_inUse h, bind, Except.bind, if_true, pure, Except.pure]
  simp

/-- A control of ports is confirmed where no rule opens all ports and one exposes these. -/
theorem confirms_portsEvaluator (h : InUse L values ingress) :
    Confirms (portsEvaluator L ports label) values ↔
      ingress.any opensAllPorts = false ∧ ingress.any (exposes ports) = true := by
  unfold Confirms portsEvaluator
  simp only [h.ingress, inScope_of_inUse h, bind, Except.bind, if_true, pure, Except.pure]
  cases ingress.any opensAllPorts with
  | true => simp
  | false => simp

/-- The two controls together find exactly the open rules. -/
theorem exposed_iff (h : InUse L values ingress) :
    Exposed L ports label values ↔ ∃ rule ∈ ingress, opens ports rule = true := by
  unfold Exposed
  rw [confirms_allPorts h, confirms_portsEvaluator h]
  have hsplit : (∃ rule ∈ ingress, opens ports rule = true) ↔
      ingress.any opensAllPorts = true ∨ ingress.any (exposes ports) = true := by
    simp only [opens, Bool.or_eq_true, List.any_eq_true, and_or_left, exists_or]
  rw [hsplit]
  cases ingress.any opensAllPorts with
  | true => simp
  | false => simp

/-- A rule that admits a port of the control is found. -/
theorem exposed_of_admits (h : InUse L values ingress) (hport : port ∈ ports) {rule : Rule}
    (hrule : rule ∈ ingress) (hadmits : Admits port rule) : Exposed L ports label values :=
  (exposed_iff h).mpr ⟨rule, hrule, opens_of_admits hport hadmits⟩

/-- Further rules leave an exposed group exposed. -/
theorem exposed_mono {values' : Document} {ingress' : List Rule} (h : InUse L values ingress)
    (h' : InUse L values' ingress') (hsub : ingress ⊆ ingress')
    (hexposed : Exposed L ports label values) : Exposed L ports label values' := by
  obtain ⟨rule, hrule, hopens⟩ := (exposed_iff h).mp hexposed
  exact (exposed_iff h').mpr ⟨rule, hsub hrule, hopens⟩

end captured

section described

variable {L : CidrLibrary} {ports : List ℤ} {label : String} {group values : Document}
variable {port : ℤ}

/-- A permission lists an address range under a field, however the range is spelled. -/
def Lists (L : CidrLibrary) (permission : Document) (field key range : String) : Prop :=
  ∃ (ranges : List Json) (item : Document) (text : String),
    permission.lookup field = some (.arr ranges) ∧ .obj item ∈ ranges ∧
      item.get key = .str text ∧ (text = range ∨ L.networkText text = range)

/-- A permission admits traffic from the whole internet to a TCP port. -/
def AdmitsPermission (L : CidrLibrary) (port : ℤ) (permission : Document) : Prop :=
  (Lists L permission "IpRanges" "CidrIp" "0.0.0.0/0" ∨
    Lists L permission "Ipv6Ranges" "CidrIpv6" "::/0") ∧
  (permission.get "IpProtocol" = .str "-1" ∨ permission.get "IpProtocol" = .str "tcp" ∧
    ∃ first last, permission.get "FromPort" = .int first ∧ permission.get "ToPort" = .int last ∧
      first ≤ port ∧ port ≤ last)

/-- A security group in use whose permissions were read and captured as its ingress rules. -/
structure Described (L : CidrLibrary) (group values : Document) : Prop where
  used : values.lookup "ec2_sg_in_use" = some (.bool true)
  captured : ∃ normalized, ec2Permissions L group "IpPermissions" = .ok normalized ∧
    values.lookup "ec2_sg_ingress_rules" = some (.arr normalized)

/-- A permission with its normalized form and the rule that the controls read from that. -/
structure Normalized (L : CidrLibrary) (permission : Document) (captured : Json) (rule : Rule) :
    Prop where
  normalizes : ec2Permission L permission = .ok captured
  reads : checkRule L.toPackLibrary "ec2_sg_ingress_rules" captured = .ok rule
  protocol_eq : permission.get "IpProtocol" = .str rule.protocol
  ports_eq : portRange L.toPackLibrary (permission.get "FromPort") (permission.get "ToPort") =
    .ok rule.ports
  ipv4_eq : ec2Cidrs L permission "IpRanges" "CidrIp" 4 = .ok rule.ipv4Cidrs
  ipv6_eq : ec2Cidrs L permission "Ipv6Ranges" "CidrIpv6" 6 = .ok rule.ipv6Cidrs

/-- A normalized address list passes the checks of the controls. -/
theorem cidrList_of_ec2Cidrs (hlib : L.Normalizes) {permission rule : Document}
    {field key name : String} {version : ℕ} {cidrs : List String}
    (hcidrs : ec2Cidrs L permission field key version = .ok cidrs)
    (hname : rule.get name = .ofStrings cidrs) :
    cidrList L.toPackLibrary rule name version = .ok cidrs := by
  obtain ⟨ranges, -, texts, htexts, hunique, hsorted⟩ := ec2Cidrs_eq_ok hcidrs
  have hmem : ∀ cidr, cidr ∈ cidrs ↔ cidr ∈ texts := by
    intro cidr
    rw [hsorted, List.mem_insertionSort]
  have hnodup : cidrs.Nodup := by
    rw [hsorted]
    exact ((List.perm_insertionSort _ texts).nodup_iff).mpr hunique
  have hparses : ∀ cidr ∈ cidrs, cidr ≠ "" ∧ ∃ network, L.ipNetwork cidr = some network ∧
      network.version = version := by
    intro cidr hcidr
    obtain ⟨item, -, hitem⟩ := exists_of_mem_mapM htexts ((hmem cidr).mp hcidr)
    obtain ⟨value, network, -, -, hvalue, hversion, rfl⟩ := ec2Cidr_eq_ok.mp hitem
    have hparse := hlib.parses value network hvalue
    refine ⟨?_, network, hparse, hversion⟩
    intro hempty
    rw [hempty, hlib.empty] at hparse
    cases hparse
  unfold cidrList
  rw [hname, except_bind_eq_ok]
  refine ⟨cidrs.map Json.str, rfl, ?_⟩
  rw [except_bind_eq_ok]
  refine ⟨cidrs, ?_, ?_⟩
  · rw [except_mapM_eq_ok, List.forall₂_map_left_iff]
    apply List.forall₂_same.mpr
    intro cidr hcidr
    exact textOr_eq_ok.mpr ⟨rfl, (hparses cidr hcidr).1⟩
  · rw [except_bind_eq_ok]
    refine ⟨(), raiseIf_eq_ok.mpr (not_not.mpr hnodup), ?_⟩
    rw [except_mapM_eq_ok]
    apply List.forall₂_same.mpr
    intro cidr hcidr
    obtain ⟨-, network, hparse, hversion⟩ := hparses cidr hcidr
    simp [hparse, hversion, raiseIf, bind, Except.bind, pure, Except.pure]

/-- Every permission that is normalized is read as a rule. -/
theorem exists_normalized (hlib : L.Normalizes) {permission : Document} {captured : Json}
    (h : ec2Permission L permission = .ok captured) :
    ∃ rule, Normalized L permission captured rule := by
  have hpermission := h
  unfold ec2Permission at h
  obtain ⟨protocol, hprotocol, h⟩ := except_bind_eq_ok.mp h
  obtain ⟨_, hrange, h⟩ := except_bind_eq_ok.mp h
  obtain ⟨ipv4Cidrs, hipv4, h⟩ := except_bind_eq_ok.mp h
  obtain ⟨ipv6Cidrs, hipv6, h⟩ := except_bind_eq_ok.mp h
  cases h
  obtain ⟨ports, hports⟩ := ec2PortRange_eq_ok.mp hrange
  obtain ⟨hprotocol, hnonempty⟩ := textOr_eq_ok.mp hprotocol
  refine ⟨⟨protocol, ports, ipv4Cidrs, ipv6Cidrs⟩, hpermission, ?_, hprotocol, hports, hipv4,
    hipv6⟩
  unfold checkRule
  rw [except_bind_eq_ok]
  refine ⟨_, rfl, ?_⟩
  rw [except_bind_eq_ok]
  refine ⟨(), rfl, ?_⟩
  rw [except_bind_eq_ok]
  refine ⟨protocol, textOr_eq_ok.mpr ⟨rfl, hnonempty⟩, ?_⟩
  rw [except_bind_eq_ok]
  refine ⟨ports, hports, ?_⟩
  rw [except_bind_eq_ok]
  refine ⟨ipv4Cidrs, cidrList_of_ec2Cidrs hlib hipv4 rfl, ?_⟩
  rw [except_bind_eq_ok]
  exact ⟨ipv6Cidrs, cidrList_of_ec2Cidrs hlib hipv6 rfl, rfl⟩

/-- A listed range that is written as itself is among the normalized ones. -/
theorem mem_of_lists {permission : Document} {field key range : String} {version : ℕ}
    {cidrs : List String} (hlists : Lists L permission field key range)
    (hself : L.networkText range = range)
    (hcidrs : ec2Cidrs L permission field key version = .ok cidrs) : range ∈ cidrs := by
  obtain ⟨ranges, item, text, hfield, hitem, htext, hspelled⟩ := hlists
  obtain ⟨objects, hobjects, texts, htexts, -, rfl⟩ := ec2Cidrs_eq_ok hcidrs
  rw [hfield, Option.getD_some] at hobjects
  rw [Json.arr.inj hobjects, List.mem_map] at hitem
  obtain ⟨found, hfound, heq⟩ := hitem
  obtain rfl := Json.obj.inj heq
  obtain ⟨written, hwritten, hcidr⟩ := exists_of_mapM_mem htexts hfound
  obtain ⟨value, network, hvalue, -, -, -, rfl⟩ := ec2Cidr_eq_ok.mp hcidr
  rw [htext] at hvalue
  obtain rfl := Json.str.inj hvalue
  rw [List.mem_insertionSort]
  obtain rfl | hspelled := hspelled
  · rwa [hself] at hwritten
  · rwa [hspelled] at hwritten

/-- What a permission admits, its rule admits. -/
theorem admits_of_normalized (hlib : L.Normalizes) {permission : Document} {captured : Json}
    {rule : Rule} (h : Normalized L permission captured rule)
    (hadmits : AdmitsPermission L port permission) : Admits port rule := by
  obtain ⟨hsource, hprotocol⟩ := hadmits
  constructor
  · obtain hipv4 | hipv6 := hsource
    · exact .inl (mem_of_lists hipv4 hlib.internet4 h.ipv4_eq)
    · exact .inr (mem_of_lists hipv6 hlib.internet6 h.ipv6_eq)
  · rw [h.protocol_eq, Json.str.injEq, Json.str.injEq] at hprotocol
    obtain hall | ⟨htcp, first, last, hfirst, hlast, hport⟩ := hprotocol
    · exact .inl hall
    · have hports := h.ports_eq
      rw [hfirst, hlast, portRange] at hports
      split at hports
      · cases hports
      · exact .inr ⟨htcp, first, last, (Except.ok.inj hports).symm, hport⟩

/-- The rules captured for a described group are those of its permissions. -/
theorem inUse_of_described (hlib : L.Normalizes) (h : Described L group values) :
    ∃ permissions ingress, group.get "IpPermissions" = .arr permissions ∧
      InUse L.toPackLibrary values ingress ∧
      ∀ rule, rule ∈ ingress ↔
        ∃ permission captured, .obj permission ∈ permissions ∧
          Normalized L permission captured rule := by
  obtain ⟨normalized, hnormalized, hcaptured⟩ := h.captured
  unfold ec2Permissions at hnormalized
  obtain ⟨objects, hobjects, hnormalized⟩ := except_bind_eq_ok.mp hnormalized
  obtain ⟨written, hwritten, hnormalized⟩ := except_bind_eq_ok.mp hnormalized
  have hmem : ∀ captured, captured ∈ normalized ↔ captured ∈ written := by
    intro captured
    rw [← Except.ok.inj hnormalized, List.mem_insertionSort]
  have hrules : ∀ captured ∈ normalized, ∃ rule,
      checkRule L.toPackLibrary "ec2_sg_ingress_rules" captured = .ok rule := by
    intro captured hmember
    obtain ⟨permission, -, hpermission⟩ :=
      exists_of_mem_mapM hwritten ((hmem captured).mp hmember)
    obtain ⟨rule, hrule⟩ := exists_normalized hlib hpermission
    exact ⟨rule, hrule.reads⟩
  obtain ⟨ingress, hingress⟩ := mapM_succeeds hrules
  refine ⟨objects.map Json.obj, ingress, objectsOf_eq_ok.mp hobjects, ⟨h.used, ?_⟩, ?_⟩
  · unfold rules
    rw [except_bind_eq_ok]
    exact ⟨_, require_eq_ok.mpr hcaptured, hingress⟩
  · intro rule
    constructor
    · intro hrule
      obtain ⟨captured, hmember, hreads⟩ := exists_of_mem_mapM hingress hrule
      obtain ⟨permission, hpermission, hmade⟩ :=
        exists_of_mem_mapM hwritten ((hmem captured).mp hmember)
      obtain ⟨rule', hrule'⟩ := exists_normalized hlib hmade
      have hsame := hrule'.reads
      rw [hreads] at hsame
      obtain rfl := Except.ok.inj hsame
      exact ⟨permission, captured, List.mem_map_of_mem hpermission, hrule'⟩
    · rintro ⟨permission, captured, hpermission, hnormal⟩
      obtain ⟨found, hfound, heq⟩ := List.mem_map.mp hpermission
      obtain rfl := Json.obj.inj heq
      obtain ⟨made, hmade, hmakes⟩ := exists_of_mapM_mem hwritten hfound
      rw [hnormal.normalizes] at hmakes
      obtain rfl := Except.ok.inj hmakes
      obtain ⟨read, hread, hreads⟩ := exists_of_mapM_mem hingress ((hmem captured).mpr hmade)
      rw [hnormal.reads] at hreads
      obtain rfl := Except.ok.inj hreads
      exact hread

/-- A permission that admits a port of the control is found. -/
theorem exposed_of_permission (hlib : L.Normalizes) (h : Described L group values)
    (hport : port ∈ ports) {permissions : List Json} {permission : Document}
    (hgroup : group.get "IpPermissions" = .arr permissions)
    (hpermission : .obj permission ∈ permissions)
    (hadmits : AdmitsPermission L port permission) :
    Exposed L.toPackLibrary ports label values := by
  obtain ⟨found, ingress, hfound, huse, hrules⟩ := inUse_of_described hlib h
  rw [hgroup] at hfound
  obtain rfl := Json.arr.inj hfound
  obtain ⟨normalized, hnormalized, -⟩ := h.captured
  obtain ⟨captured, hcaptured⟩ := normalized_of_mem hnormalized hgroup hpermission
  obtain ⟨rule, hrule⟩ := exists_normalized hlib hcaptured
  exact exposed_of_admits huse hport ((hrules rule).mpr ⟨permission, captured, hpermission, hrule⟩)
    (admits_of_normalized hlib hrule hadmits)

/-- Further permissions leave an exposed group exposed. -/
theorem exposed_permissions_mono (hlib : L.Normalizes) {group' values' : Document}
    (h : Described L group values) (h' : Described L group' values')
    {permissions permissions' : List Json} (hgroup : group.get "IpPermissions" = .arr permissions)
    (hgroup' : group'.get "IpPermissions" = .arr permissions')
    (hsub : permissions ⊆ permissions') (hexposed : Exposed L.toPackLibrary ports label values) :
    Exposed L.toPackLibrary ports label values' := by
  obtain ⟨found, ingress, hfound, huse, hrules⟩ := inUse_of_described hlib h
  obtain ⟨found', ingress', hfound', huse', hrules'⟩ := inUse_of_described hlib h'
  rw [hgroup] at hfound
  rw [hgroup'] at hfound'
  obtain rfl := Json.arr.inj hfound
  obtain rfl := Json.arr.inj hfound'
  apply exposed_mono huse huse' _ hexposed
  intro rule hrule
  obtain ⟨permission, captured, hpermission, hnormal⟩ := (hrules rule).mp hrule
  exact (hrules' rule).mpr ⟨permission, captured, hsub hpermission, hnormal⟩

end described

/-- Exposure detection is complete and monotone, over the valid ingress rules of a security
group in use and over the permissions they are read from. -/
theorem exposure_complete_monotone (L : CidrLibrary) (hlib : L.Normalizes) (ports : List ℤ)
    (label : String) :
    (∀ values ingress, InUse L.toPackLibrary values ingress →
      ∀ rule ∈ ingress, ∀ port ∈ ports, Admits port rule →
        Exposed L.toPackLibrary ports label values) ∧
    (∀ values ingress values' ingress', InUse L.toPackLibrary values ingress →
      InUse L.toPackLibrary values' ingress' → ingress ⊆ ingress' →
        Exposed L.toPackLibrary ports label values →
          Exposed L.toPackLibrary ports label values') ∧
    (∀ group values permissions, Described L group values →
      group.get "IpPermissions" = .arr permissions →
      ∀ permission, .obj permission ∈ permissions → ∀ port ∈ ports,
        AdmitsPermission L port permission → Exposed L.toPackLibrary ports label values) ∧
    (∀ group values permissions group' values' permissions', Described L group values →
      Described L group' values' → group.get "IpPermissions" = .arr permissions →
      Document.get group' "IpPermissions" = .arr permissions' → permissions ⊆ permissions' →
        Exposed L.toPackLibrary ports label values →
          Exposed L.toPackLibrary ports label values') := by
  refine ⟨?_, ?_, ?_, ?_⟩
  · intro values ingress huse rule hrule port hport hadmits
    exact exposed_of_admits huse hport hrule hadmits
  · intro values ingress values' ingress' huse huse' hsub hexposed
    exact exposed_mono huse huse' hsub hexposed
  · intro group values permissions h hgroup permission hpermission port hport hadmits
    exact exposed_of_permission hlib h hport hgroup hpermission hadmits
  · intro group values permissions group' values' permissions' h h' hgroup hgroup' hsub hexposed
    exact exposed_permissions_mono hlib h h' hgroup hgroup' hsub hexposed

section played

/-- A library that knows two internet ranges and a private one. -/
def internetLibrary : CidrLibrary where
  platform := samplePlatform
  repr := samplePlatform.canonical
  ipNetwork text :=
    if text = "0.0.0.0/0" then some ⟨4, true, 0⟩
    else if text = "::/0" then some ⟨6, true, 0⟩
    else if text = "10.0.0.0/8" then some ⟨4, false, 8⟩
    else none
  networkText text := text

/-- The sample's library writes networks as it reads them. -/
theorem internetLibrary_normalizes : internetLibrary.Normalizes where
  parses _ _ h := h
  empty := rfl
  internet4 := rfl
  internet6 := rfl

/-- A permission of the sample group. -/
def permissionFor (protocol : String) (ports : Document) (ranges : String) (key range : String) :
    Json :=
  .obj ([("IpProtocol", .str protocol), (ranges, .arr [.obj [(key, .str range)]])] ++ ports)

/-- SSH from the internet. -/
def sshPermission : Json :=
  permissionFor "tcp" [("FromPort", .int 20), ("ToPort", .int 25)] "IpRanges" "CidrIp" "0.0.0.0/0"

/-- All traffic from the internet. -/
def openPermission : Json := permissionFor "-1" [] "Ipv6Ranges" "CidrIpv6" "::/0"

/-- The description of a group with the given permissions. -/
def groupWith (permissions : List Json) : Document := [("IpPermissions", .arr permissions)]

/-- What is captured of that group. -/
def capturedOf (permissions : List Json) : Document :=
  [("ec2_sg_in_use", .bool true), ("ec2_sg_ingress_rules",
    .arr ((ec2Permissions internetLibrary (groupWith permissions)
      "IpPermissions").toOption.getD []))]

/-- The captured state describes the group with the SSH rule. -/
theorem described_ssh : Described internetLibrary (groupWith [sshPermission])
    (capturedOf [sshPermission]) where
  used := rfl
  captured := ⟨_, rfl, rfl⟩

/-- The captured state describes the group with the open rule. -/
theorem described_open : Described internetLibrary (groupWith [openPermission, sshPermission])
    (capturedOf [openPermission, sshPermission]) where
  used := rfl
  captured := ⟨_, rfl, rfl⟩

/-- The open SSH port is found, also where the all-ports control suppresses its control. -/
theorem exposure_complete_monotone_ssh :
    Exposed internetLibrary.toPackLibrary [22] "SSH" (capturedOf [sshPermission]) ∧
      Exposed internetLibrary.toPackLibrary [22] "SSH"
        (capturedOf [openPermission, sshPermission]) := by
  obtain ⟨-, -, hcomplete, hmono⟩ :=
    exposure_complete_monotone internetLibrary internetLibrary_normalizes [22] "SSH"
  have hexposed : Exposed internetLibrary.toPackLibrary [22] "SSH"
    (capturedOf [sshPermission]) := by
    apply hcomplete _ _ _ described_ssh rfl _ List.mem_cons_self 22 (List.mem_singleton_self _)
    constructor
    · exact .inl ⟨_, _, "0.0.0.0/0", rfl, List.mem_singleton_self _, rfl, .inl rfl⟩
    · exact .inr ⟨rfl, 20, 25, rfl, rfl, by decide, by decide⟩
  refine ⟨hexposed, ?_⟩
  apply hmono _ _ _ _ _ _ described_ssh described_open rfl rfl _ hexposed
  exact List.subset_cons_self _ _

end played

end ElCapitan.Exposure
