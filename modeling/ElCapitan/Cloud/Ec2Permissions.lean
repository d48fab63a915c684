import ElCapitan.ControlPacks.Ec2
import Mathlib.Data.List.Sort

/-!
# Security-group permissions

`_ec2_cidrs` and `_ec2_permissions`: the permissions of a `DescribeSecurityGroups` answer,
checked and written as the rules that the EC2 controls read.
-/

namespace ElCapitan.Ec2Permissions

/-- The library of the packs with `str(ipaddress.ip_network(text))`. -/
structure CidrLibrary extends PackLibrary where
  networkText : String → String

/-- What the code relies on: a network's text parses to the network it was written from, no
network is written as the empty text, and the two internet ranges are written as themselves. -/
structure CidrLibrary.Normalizes (L : CidrLibrary) : Prop where
  parses : ∀ text network, L.ipNetwork text = some network →
    L.ipNetwork (L.networkText text) = some network
  empty : L.ipNetwork "" = none
  internet4 : L.networkText "0.0.0.0/0" = "0.0.0.0/0"
  internet6 : L.networkText "::/0" = "::/0"

variable (L : CidrLibrary)

/-- `_ec2_cidrs` on one range. -/
def ec2Cidr (key : String) (version : ℕ) (item : Document) : Except PyError String := do
  let invalid : PyError := valueError ("EC2 security-group response has invalid " ++ key ++
    " " ++ L.repr (item.get key))
  let value ← textOr invalid (item.get key)
  match L.ipNetwork value with
  | none => .error (valueError ("EC2 security-group response has invalid CIDR " ++
      L.repr (.str value)))
  | some network =>
    raiseIf (network.version ≠ version) invalid
    return L.networkText value

/-- The objects of a list, or the complaint about the field that holds it. -/
def objectsOf (field : String) (value : Json) : Except PyError (List Document) := do
  let invalid : PyError := valueError ("EC2 security-group response has invalid " ++ field)
  let items ← listOr invalid value
  items.mapM (dictOr invalid)

/-- `_ec2_cidrs`. -/
def ec2Cidrs (permission : Document) (field key : String) (version : ℕ) :
    Except PyError (List String) := do
  let ranges ← objectsOf field ((permission.lookup field).getD (.arr []))
  let cidrs ← ranges.mapM (ec2Cidr L key version)
  raiseIf (¬cidrs.Nodup) (valueError ("EC2 security-group response has duplicate " ++ field))
  return cidrs.insertionSort fun a b => a ≤ b

/-- The checks of `_ec2_permissions` on a port range. -/
def ec2PortRange (start stop : Json) : Except PyError Unit :=
  let invalid : PyError := valueError ("EC2 security-group response has invalid port range " ++
    L.repr start ++ "-" ++ L.repr stop)
  match start, stop with
  | .null, .null => .ok ()
  | .null, _ | _, .null =>
    .error (valueError "EC2 security-group response has incomplete port range")
  | .int first, .int last => raiseIf (first < -1 ∨ last > 65535 ∨ first > last) invalid
  | _, _ => .error invalid

/-- One normalized permission. -/
def ec2Permission (permission : Document) : Except PyError Json := do
  let protocol ← textOr (valueError ("EC2 security-group response has invalid IpProtocol " ++
    L.repr (permission.get "IpProtocol"))) (permission.get "IpProtocol")
  ec2PortRange L (permission.get "FromPort") (permission.get "ToPort")
  let ipv4Cidrs ← ec2Cidrs L permission "IpRanges" "CidrIp" 4
  let ipv6Cidrs ← ec2Cidrs L permission "Ipv6Ranges" "CidrIpv6" 6
  return .obj [("protocol", .str protocol), ("from_port", permission.get "FromPort"),
    ("to_port", permission.get "ToPort"), ("ipv4_cidrs", .ofStrings ipv4Cidrs),
    ("ipv6_cidrs", .ofStrings ipv6Cidrs)]

/-- `_ec2_permissions`. -/
def ec2Permissions (group : Document) (field : String) : Except PyError (List Json) := do
  let permissions ← objectsOf field (group.get field)
  let normalized ← permissions.mapM (ec2Permission L)
  return normalized.insertionSort fun a b =>
    L.platform.canonical a ≤ L.platform.canonical b

variable {L}

/-- The objects of a list are exactly its items. -/
theorem objectsOf_eq_ok {field : String} {value : Json} {objects : List Document} :
    objectsOf field value = .ok objects ↔ value = .arr (objects.map Json.obj) := by
  have hitems : ∀ (e : PyError) (items : List Json) (found : List Document),
      items.mapM (dictOr e) = .ok found ↔ items = found.map Json.obj := by
    intro e items found
    rw [except_mapM_eq_ok]
    simp only [dictOr_eq_ok]
    constructor
    · intro hall
      induction hall with
      | nil => rfl
      | cons hitem hrest ih => rw [hitem, ih, List.map_cons]
    · rintro rfl
      rw [List.forall₂_map_left_iff]
      exact List.forall₂_same.mpr fun _ _ => rfl
  unfold objectsOf
  rw [except_bind_eq_ok]
  constructor
  · rintro ⟨items, hitems', hfound⟩
    cases value <;> simp [listOr] at hitems'
    rw [hitems', (hitems _ _ _).mp hfound]
  · rintro rfl
    exact ⟨_, rfl, (hitems _ _ _).mpr rfl⟩

/-- A fallible function that succeeds on every item succeeds on the list. -/
theorem mapM_succeeds {α β : Type} {f : α → Except PyError β} {items : List α}
    (h : ∀ a ∈ items, ∃ b, f a = .ok b) : ∃ made, items.mapM f = .ok made := by
  simp only [except_mapM_eq_ok]
  induction items with
  | nil => exact ⟨[], .nil⟩
  | cons a rest ih =>
    obtain ⟨b, hb⟩ := h a List.mem_cons_self
    obtain ⟨others, hothers⟩ := ih fun a' ha' => h a' (List.mem_cons_of_mem _ ha')
    exact ⟨b :: others, .cons hb hothers⟩

/-- The port checks pass exactly where those of the controls read a port range. -/
theorem ec2PortRange_eq_ok {start stop : Json} :
    ec2PortRange L start stop = .ok () ↔ ∃ ports, AwsEc2.portRange L.toPackLibrary start stop =
      .ok ports := by
  cases start <;> cases stop <;> simp only [ec2PortRange, AwsEc2.portRange, reduceCtorEq,
    exists_false, Except.ok.injEq, exists_eq', raiseIf]
  split
  · simp
  · simp

/-- What passes the checks on one range. -/
theorem ec2Cidr_eq_ok {key : String} {version : ℕ} {item : Document} {text : String} :
    ec2Cidr L key version item = .ok text ↔ ∃ value network, item.get key = .str value ∧
      value ≠ "" ∧ L.ipNetwork value = some network ∧ network.version = version ∧
      text = L.networkText value := by
  unfold ec2Cidr
  rw [except_bind_eq_ok]
  simp only [textOr_eq_ok]
  constructor
  · rintro ⟨value, ⟨hvalue, hne⟩, hnetwork⟩
    cases hparse : L.ipNetwork value with
    | none => simp [hparse] at hnetwork
    | some network =>
      simp only [hparse, except_bind_eq_ok, raiseIf_eq_ok, not_not] at hnetwork
      obtain ⟨_, hversion, htext⟩ := hnetwork
      exact ⟨value, network, hvalue, hne, hparse, hversion, (Except.ok.inj htext).symm⟩
  · rintro ⟨value, network, hvalue, hne, hparse, hversion, rfl⟩
    refine ⟨value, ⟨hvalue, hne⟩, ?_⟩
    simp [hparse, hversion, raiseIf, bind, Except.bind, pure, Except.pure]

/-- The normalized ranges of a field: those it lists, distinct once normalized, in order. -/
theorem ec2Cidrs_eq_ok {permission : Document} {field key : String} {version : ℕ}
    {cidrs : List String} (h : ec2Cidrs L permission field key version = .ok cidrs) :
    ∃ ranges : List Document, (permission.lookup field).getD (.arr []) =
      .arr (ranges.map Json.obj) ∧
      ∃ texts : List String, ranges.mapM (ec2Cidr L key version) = .ok texts ∧ texts.Nodup ∧
        cidrs = texts.insertionSort fun a b => a ≤ b := by
  unfold ec2Cidrs at h
  obtain ⟨ranges, hranges, h⟩ := except_bind_eq_ok.mp h
  obtain ⟨texts, htexts, h⟩ := except_bind_eq_ok.mp h
  obtain ⟨_, hunique, h⟩ := except_bind_eq_ok.mp h
  have hunique := not_not.mp (raiseIf_eq_ok.mp hunique)
  exact ⟨ranges, objectsOf_eq_ok.mp hranges, texts, htexts, hunique, (Except.ok.inj h).symm⟩

/-- Where all permissions of a group are normalized, each of them is. -/
theorem normalized_of_mem {group permission : Document} {field : String}
    {normalized permissions : List Json} (h : ec2Permissions L group field = .ok normalized)
    (hgroup : group.get field = .arr permissions) (hmem : .obj permission ∈ permissions) :
    ∃ captured, ec2Permission L permission = .ok captured := by
  unfold ec2Permissions at h
  obtain ⟨objects, hobjects, h⟩ := except_bind_eq_ok.mp h
  obtain ⟨written, hwritten, -⟩ := except_bind_eq_ok.mp h
  rw [objectsOf_eq_ok, hgroup] at hobjects
  rw [Json.arr.inj hobjects, List.mem_map] at hmem
  obtain ⟨found, hfound, heq⟩ := hmem
  obtain rfl := Json.obj.inj heq
  obtain ⟨captured, -, hcaptured⟩ := exists_of_mapM_mem hwritten hfound
  exact ⟨captured, hcaptured⟩

end ElCapitan.Ec2Permissions
