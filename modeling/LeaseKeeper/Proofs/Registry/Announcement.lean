/-
  What is announced is read back.

  Identities and registrations are written as JSON text and read from it.  Every record is decoded
  to what it was written from, from the inside out: a port, a data center, the terms of a lease,
  an instance, a registration (`RegistrationRequest.ofJson?_toJson`), and an identity
  (`Identity.ofJson?_toJson`).  All of them fit into a JSON text whatever their texts, numbers and
  maps are, so their text is read back, too (`written_read_back`).

  So there are two halves.  That a RECORD is decoded is the same argument each time: the keys of
  the object are the declared ones and no key is there twice, so every field is found, and each is
  read as what was put there.  One field is not always there: an instance with no lease leaves out
  the terms of it, and that is read as there being none.

  That a TEXT is read back asks for two things more, a depth that the reader allows and numbers
  that have room.  The records are nested to a fixed depth, and all their numbers were machine
  words before they were written (`fits_toJson`).
-/
import LeaseKeeper.Proofs.Json.Records
import LeaseKeeper.Proofs.Json.Rereading
import LeaseKeeper.Registry.Instance

namespace LeaseKeeper

/-! ## The parts of an instance -/

/-- A status is known by its label. -/
theorem InstanceStatus.ofJson?_label (s : InstanceStatus) : ofJson? (.str s.label) = some s := by
  cases s <;> decide

/-- A port has a number with room for it, and a text that says whether it is in use. -/
theorem PortInfo.ofJson?_toJson (p : PortInfo) : ofJson? p.toJson = some p := by
  have hfields : p.toJson.record? ["$", "@enabled"] = some p.toJson.field :=
    Json.record?_eq_field ["$", "@enabled"] rfl rfl (by decide) (List.Subset.refl _)
  have hnumber : Json.required (p.toJson.field "$") Json.uint16? = some p.number :=
    Json.required_some rfl (Json.uint16?_natural p.number)
  have henabled : Json.required (p.toJson.field "@enabled") Json.str? = some p.enabled := rfl
  simp only [ofJson?, hfields, hnumber, henabled, Option.bind_eq_bind, Option.bind_some,
    Option.pure_def]

theorem DataCenter.ofJson?_toJson (d : DataCenter) : ofJson? d.toJson = some d := by
  have hfields : d.toJson.record? ["@class", "name"] = some d.toJson.field :=
    Json.record?_eq_field ["@class", "name"] rfl rfl (by decide) (List.Subset.refl _)
  have hclass : Json.required (d.toJson.field "@class") Json.str? = some d.className := rfl
  have hname : Json.required (d.toJson.field "name") Json.str? = some d.name := rfl
  simp only [ofJson?, hfields, hclass, hname, Option.bind_eq_bind, Option.bind_some,
    Option.pure_def]

/-- The interval is a number of the same width on both sides. -/
theorem LeaseTerms.ofJson?_toJson (l : LeaseTerms) : ofJson? l.toJson = some l := by
  have hfields : l.toJson.record? ["renewalIntervalInSecs"] = some l.toJson.field :=
    Json.record?_eq_field ["renewalIntervalInSecs"] rfl rfl (by decide) (List.Subset.refl _)
  have hinterval : Json.required (l.toJson.field "renewalIntervalInSecs") Json.uint64? =
      some l.renewalIntervalSecs :=
    Json.required_some rfl (Json.uint64?_natural l.renewalIntervalSecs)
  simp only [ofJson?, hfields, hinterval, Option.bind_eq_bind, Option.bind_some, Option.pure_def]

/-! ## An instance -/

namespace InstanceInfo

/-- **The fields of a written instance.**  The terms of a lease are there if it has any. -/
theorem record?_toJson (i : InstanceInfo) :
    i.toJson.record? fieldNames = some i.toJson.field := by
  -- The keys are written out for both cases, as there is one less without a lease.
  cases hlease : i.lease with
  | none =>
    refine Json.record?_eq_field ["instanceId", "hostName", "app", "ipAddr", "vipAddress", "status",
      "overriddenstatus", "port", "securePort", "dataCenterInfo", "metadata"] rfl ?_ (by decide)
      (by decide)
    rw [toJson, leaseMembers, hlease]
    rfl
  | some l =>
    refine Json.record?_eq_field fieldNames rfl ?_ (by decide) (List.Subset.refl _)
    rw [toJson, leaseMembers, hlease]
    rfl

/-- What stands in the one place that may be empty. -/
theorem field_lease (i : InstanceInfo) :
    i.toJson.field "leaseInfo" = i.lease.map LeaseTerms.toJson := by
  rw [toJson, leaseMembers]
  cases i.lease <;> rfl

theorem field_metadata (i : InstanceInfo) :
    i.toJson.field "metadata" = some (metadataJson i.metadata) := by
  rw [toJson, leaseMembers]
  cases i.lease <;> rfl

/-- Read as it was written: nothing, or the terms. -/
theorem read_lease (i : InstanceInfo) :
    Json.orDefault (i.toJson.field "leaseInfo") none (Json.nullable? LeaseTerms.ofJson?) =
      some i.lease := by
  rw [field_lease]
  cases i.lease with
  | none => rfl
  | some l => exact congrArg (Option.map some) l.ofJson?_toJson

/-- **An instance is decoded to what it was written from**, field by field.  Only the lease needs
    a case split; every other field is in the same place with or without one. -/
theorem ofJson?_toJson (i : InstanceInfo) : ofJson? i.toJson = some i := by
  have hinstanceId : Json.required (i.toJson.field "instanceId") Json.str? = some i.instanceId := rfl
  have hhostName : Json.required (i.toJson.field "hostName") Json.str? = some i.hostName := rfl
  have happ : Json.required (i.toJson.field "app") Json.str? = some i.app := rfl
  have hipAddr : Json.required (i.toJson.field "ipAddr") Json.str? = some i.ipAddr := rfl
  have hvip : Json.required (i.toJson.field "vipAddress") Json.str? = some i.vipAddress := rfl
  have hstatus : Json.required (i.toJson.field "status") InstanceStatus.ofJson? = some i.status :=
    Json.required_some rfl i.status.ofJson?_label
  have hoverridden : Json.required (i.toJson.field "overriddenstatus") InstanceStatus.ofJson? =
      some i.overriddenStatus := Json.required_some rfl i.overriddenStatus.ofJson?_label
  have hport : Json.required (i.toJson.field "port") PortInfo.ofJson? = some i.port :=
    Json.required_some rfl i.port.ofJson?_toJson
  have hsecure : Json.required (i.toJson.field "securePort") PortInfo.ofJson? = some i.securePort :=
    Json.required_some rfl i.securePort.ofJson?_toJson
  have hcenter : Json.required (i.toJson.field "dataCenterInfo") DataCenter.ofJson? =
      some i.dataCenter := Json.required_some rfl i.dataCenter.ofJson?_toJson
  -- The map is read into a sorted one, and it was one.
  have hmetadata : Json.orDefault (i.toJson.field "metadata") .empty (Json.map? Json.str?) =
      some i.metadata := Json.orDefault_some i.field_metadata (Json.map?_strings i.metadata)
  simp only [ofJson?, i.record?_toJson, hinstanceId, hhostName, happ, hipAddr, hvip, hstatus,
    hoverridden, hport, hsecure, hcenter, i.read_lease, hmetadata, Option.bind_eq_bind,
    Option.bind_some, Option.pure_def]

end InstanceInfo

/-- **A registration is decoded to what it was written from**: it is an instance in a record of
    its own. -/
theorem RegistrationRequest.ofJson?_toJson (r : RegistrationRequest) : ofJson? r.toJson = some r := by
  have hfields : r.toJson.record? ["instance"] = some r.toJson.field :=
    Json.record?_eq_field ["instance"] rfl rfl (by decide) (List.Subset.refl _)
  have hannounced : Json.required (r.toJson.field "instance") InstanceInfo.ofJson? =
      some r.announced := Json.required_some rfl r.announced.ofJson?_toJson
  simp only [ofJson?, hfields, hannounced, Option.bind_eq_bind, Option.bind_some, Option.pure_def]

/-! ## An identity -/

namespace Identity

/-- **An identity is decoded to what it was written from.**  Some of its fields could be left out
    of a text and would then be read as their defaults; they are written all the same. -/
theorem ofJson?_toJson (i : Identity) : ofJson? i.toJson = some i := by
  have hfields : i.toJson.record? fieldNames = some i.toJson.field :=
    Json.record?_eq_field fieldNames rfl rfl (by decide) (List.Subset.refl _)
  have hname : Json.required (i.toJson.field "name") Json.str? = some i.name := rfl
  have hinstanceId : Json.required (i.toJson.field "instance_id") Json.str? = some i.instanceId := rfl
  have haddr : Json.required (i.toJson.field "addr") Json.str? = some i.addr := rfl
  have huris : Json.orDefault (i.toJson.field "uris") [] (Json.list? Json.str?) = some i.uris :=
    Json.orDefault_some rfl (Json.list?_strings i.uris)
  have hinstanceAddr : Json.orDefault (i.toJson.field "instance_addr") "" Json.str? =
      some i.instanceAddr := rfl
  have hindex : Json.orDefault (i.toJson.field "instance_index") 0 Json.uint32? =
      some i.instanceIndex := Json.orDefault_some rfl (Json.uint32?_natural i.instanceIndex)
  have happId : Json.orDefault (i.toJson.field "app_id") "" Json.str? = some i.appId := rfl
  have hversion : Json.orDefault (i.toJson.field "version") "" Json.str? = some i.version := rfl
  have hspace : Json.orDefault (i.toJson.field "space_name") "" Json.str? = some i.spaceName := rfl
  simp only [ofJson?, hfields, hname, hinstanceId, haddr, huris, hinstanceAddr, hindex, happId,
    hversion, hspace, Option.bind_eq_bind, Option.bind_some, Option.pure_def]

end Identity

/-! ## Down to the text -/

/-- Nothing in an identity is nested deeper than its list of addresses. -/
theorem Identity.fits_toJson (i : Identity) : i.toJson.fits 0 = true := by
  simp only [toJson, Json.fits, Json.allMembersFit, Number.overflows_uint32, Json.allFit_strings,
    Json.maxDepth]
  rfl

theorem PortInfo.fits_toJson (p : PortInfo) : p.toJson.fits 2 = true := by
  simp only [toJson, Json.fits, Json.allMembersFit, Number.overflows_uint16, Json.maxDepth]
  rfl

theorem LeaseTerms.fits_toJson (l : LeaseTerms) : l.toJson.fits 2 = true := by
  simp only [toJson, Json.fits, Json.allMembersFit, Number.overflows_uint64, Json.maxDepth]
  rfl

/-- An instance stands one level below the registration, and what is in it one level below that. -/
theorem InstanceInfo.fits_toJson (i : InstanceInfo) : i.toJson.fits 1 = true := by
  have hlease : Json.allMembersFit 2 i.leaseMembers = true := by
    rw [leaseMembers]
    cases i.lease with
    | none => rfl
    | some l =>
      rw [Json.allMembersFit, l.fits_toJson]
      rfl
  have hmetadata : (metadataJson i.metadata).fits 2 = true :=
    Json.allMembersFit_strings 3 i.metadata.entries
  simp only [toJson, Json.fits, Json.allMembersFit_append, Json.allMembersFit, hlease, hmetadata,
    i.port.fits_toJson, i.securePort.fits_toJson, Json.maxDepth]
  rfl

theorem RegistrationRequest.fits_toJson (r : RegistrationRequest) : r.toJson.fits 0 = true := by
  rw [toJson, Json.fits, Json.allMembersFit, r.announced.fits_toJson]
  rfl

/-- Both halves together. -/
theorem RegistrationRequest.roundTrips (r : RegistrationRequest) :
    Json.RoundTrips toJson ofJson? r := Json.roundTrips r.fits_toJson r.ofJson?_toJson

/-- **What is announced is read back.**  Whatever a registration or an identity consists of, its JSON
    text is read as the same registration or identity; so is the text of the registration that
    announces any identity, renewed at any interval. -/
theorem written_read_back :
    (∀ r, Json.RoundTrips RegistrationRequest.toJson RegistrationRequest.ofJson? r) ∧
      (∀ i, Json.RoundTrips Identity.toJson Identity.ofJson? i) ∧
      ∀ (i : Identity) (renewal : Option Duration),
        Json.RoundTrips RegistrationRequest.toJson RegistrationRequest.ofJson?
          ⟨.ofIdentity i renewal⟩ :=
  ⟨RegistrationRequest.roundTrips, fun i => Json.roundTrips i.fits_toJson i.ofJson?_toJson,
    fun i renewal => RegistrationRequest.roundTrips ⟨.ofIdentity i renewal⟩⟩

end LeaseKeeper
