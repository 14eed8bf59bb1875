import ManufacturingMas.Domain.AgentSnapshot
import ManufacturingMas.Lib.Traverse

/-! The enrichment of a snapshot: it never raises, adds two entries and nothing else, and a
context that the adapter has made passes the check of contexts. -/

namespace ManufacturingMas.Proofs.ContextContract
open Py Contract

variable {py : Interpreter} {snapshot : Dict} {ingest : Option String} {m : ManufacturingContext}

/-! ### What the adapter makes is valid -/

theorem orElse_truthy {x y : Val} (h : y.truthy = true) : (x.orElse y).truthy = true := by
  unfold Val.orElse
  split
  · assumption
  · exact h

theorem textOr_ne_empty {x : Val} {default s : String} (hdefault : default ≠ "")
    (h : textOr py x default = .ok s) : s ≠ "" :=
  strOf_ne_empty (orElse_truthy (by simpa [Val.truthy] using hdefault)) h

/-- The parts of a context that the check looks into. -/
structure Valid (m : ManufacturingContext) : Prop where
  version : m.contractVersion = contextContractVersion
  site : m.identifiers.siteId ≠ ""
  plant : m.identifiers.plantId ≠ ""
  line : m.identifiers.lineId ≠ ""
  cell : m.identifiers.cellId ≠ ""
  shift : m.identifiers.shiftCode ≠ ""

theorem fromFactorySnapshot_valid (h : fromFactorySnapshot py snapshot ingest = .ok m) :
    Valid m := by
  simp only [fromFactorySnapshot, Traverse.bind_ok_iff] at h
  obtain ⟨siteId,hsite,plantId,hplant,lineId,hline,cellId,hcell,_,-,_,-,_,-,_,-,_,-,
    shiftCode,hshift,_,-,_,-,_,-,_,-,_,-,_,-,_,-,_,-,_,-,h⟩ := h
  cases h
  exact
    { version := rfl
      site := textOr_ne_empty (by decide) hsite
      plant := textOr_ne_empty (by decide) hplant
      line := textOr_ne_empty (by decide) hline
      cell := textOr_ne_empty (by decide) hcell
      shift := textOr_ne_empty (by decide) hshift }

theorem identifiers_valid (h : Valid m) : identifierErrors (.dict m.identifiers.toDict) = [] := by
  have htexts : ∀ key ∈ ["site_id", "plant_id", "line_id", "cell_id", "shift_code"],
      (getD m.identifiers.toDict key .none).truthy = true := by
    simp only [List.forall_mem_cons]
    exact ⟨decide_eq_true h.site,decide_eq_true h.plant,decide_eq_true h.line,
      decide_eq_true h.cell,decide_eq_true h.shift,List.forall_mem_nil _⟩
  have hlists : ∀ key ∈ ["station_ids", "equipment_ids", "material_skus", "lot_ids", "order_ids"],
      ∃ xs, getD m.identifiers.toDict key .none = .list xs := by
    simp only [List.forall_mem_cons]
    exact ⟨⟨_,rfl⟩,⟨_,rfl⟩,⟨_,rfl⟩,⟨_,rfl⟩,⟨_,rfl⟩,List.forall_mem_nil _⟩
  refine List.append_eq_nil_iff.mpr ⟨?_,?_⟩
  · exact List.filterMap_eq_nil_iff.mpr fun key hkey => if_pos (htexts key hkey)
  · refine List.filterMap_eq_nil_iff.mpr fun key hkey => ?_
    obtain ⟨xs,hxs⟩ := hlists key hkey
    rw [hxs]

theorem temporal_valid (t : TemporalAxes) : temporalErrors (.dict t.toDict) = [] := rfl

theorem kpi_valid (k : KpiSliceBundle) : kpiErrors (.dict k.toDict) = [] := by
  have hdicts : ∀ key ∈ ["line", "by_station", "by_shift", "by_sku"],
      (getD k.toDict key .none).isDict = true := by
    simp only [List.forall_mem_cons]
    exact ⟨rfl,rfl,rfl,rfl,List.forall_mem_nil _⟩
  exact List.filterMap_eq_nil_iff.mpr fun key hkey => if_pos (hdicts key hkey)

theorem sections_present (m : ManufacturingContext) :
    ∀ key ∈ contextRequiredSections, (Assoc.get m.toDict key).isSome = true := by
  unfold contextRequiredSections
  simp only [List.forall_mem_cons]
  exact ⟨rfl,rfl,rfl,rfl,rfl,rfl,List.forall_mem_nil _⟩

/-- The dict of a valid context has no errors. -/
theorem validate_toDict (h : Valid m) : validateContextDict py (.dict m.toDict) = .ok [] := by
  have hsections : (contextRequiredSections.filterMap fun key =>
      if (Assoc.get m.toDict key).isSome then none else some s!"missing section: {key}") = [] :=
    List.filterMap_eq_nil_iff.mpr fun key hkey => if_pos (sections_present m key hkey)
  have hversion : (getD m.toDict "contract_version" .none).isStr contextContractVersion = true :=
    decide_eq_true h.version
  have hidentifiers : getD m.toDict "identifiers" .none = .dict m.identifiers.toDict := rfl
  have htemporal : getD m.toDict "temporal" .none = .dict m.temporal.toDict := rfl
  have hkpi : getD m.toDict "kpi_slices" .none = .dict m.kpiSlices.toDict := rfl
  unfold validateContextDict
  dsimp only
  rw [hsections, if_pos hversion, hidentifiers, htemporal, hkpi, identifiers_valid h,
    temporal_valid, kpi_valid]
  rfl

/-! ### What the enrichment adds -/

/-- The adapter does not read the two entries that the enrichment writes. -/
theorem fromFactorySnapshot_enriched (py : Interpreter) (snapshot : Dict) (v w : Val)
    (ingest : Option String) :
    fromFactorySnapshot py (Assoc.set (Assoc.set snapshot "manufacturing_context" v)
      "manufacturing_context_validation" w) ingest = fromFactorySnapshot py snapshot ingest := by
  have hread : ∀ key, key ≠ "manufacturing_context" → key ≠ "manufacturing_context_validation" →
      getD (Assoc.set (Assoc.set snapshot "manufacturing_context" v)
        "manufacturing_context_validation" w) key .none = getD snapshot key .none := by
    intro key hcontext hvalidation
    rw [getD_set_of_ne hvalidation, getD_set_of_ne hcontext]
  unfold fromFactorySnapshot
  simp (disch := decide) only [hread]

/-- A snapshot with its two entries. -/
def withContext (snapshot : Dict) (mctx validation : Val) : Dict :=
  Assoc.set (Assoc.set snapshot "manufacturing_context" mctx)
    "manufacturing_context_validation" validation

theorem withContext_context (snapshot : Dict) (mctx validation : Val) :
    Assoc.get (withContext snapshot mctx validation) "manufacturing_context" = some mctx := by
  unfold withContext
  rw [Assoc.get_set_of_ne (by decide), Assoc.get_set_self]

theorem withContext_validation (snapshot : Dict) (mctx validation : Val) :
    Assoc.get (withContext snapshot mctx validation) "manufacturing_context_validation" =
      some validation := Assoc.get_set_self

theorem withContext_twice (snapshot : Dict) (mctx validation : Val) :
    withContext (withContext snapshot mctx validation) mctx validation =
      withContext snapshot mctx validation := by
  change Assoc.set (Assoc.set (withContext snapshot mctx validation) _ _) _ _ = _
  rw [Assoc.set_of_get (withContext_context snapshot mctx validation),
    Assoc.set_of_get (withContext_validation snapshot mctx validation)]

/-- The two entries that the enrichment adds. -/
def entries (py : Interpreter) (time : String) (snapshot : Dict) : Val × Val :=
  match fromFactorySnapshot py snapshot (some time) with
  | .ok mctx => (.dict mctx.toDict, .list [])
  | .error _ => (.dict [("contract_version", .str "error"), ("error", .str "adapter_failed")],
      .list [.str "adapter_failed"])

theorem enrich_eq (py : Interpreter) (time : String) (snapshot : Dict) :
    enrichSnapshotForAgents py time (.dict snapshot) = .ok (.dict
      (withContext snapshot (entries py time snapshot).1 (entries py time snapshot).2)) := by
  unfold enrichSnapshotForAgents entries
  dsimp only
  cases hadapter : fromFactorySnapshot py snapshot (some time) with
  | error e => rfl
  | ok mctx =>
    have hcheck : validateContextDict py (.dict mctx.toDict) = .ok [] :=
      validate_toDict (fromFactorySnapshot_valid hadapter)
    dsimp only [bind, Except.bind]
    rw [hcheck]
    rfl

theorem entries_enriched (py : Interpreter) (time : String) (snapshot : Dict)
    (mctx validation : Val) :
    entries py time (withContext snapshot mctx validation) = entries py time snapshot := by
  unfold entries withContext
  rw [fromFactorySnapshot_enriched]

/-- What holds of the dict that a snapshot is enriched to. -/
structure Enriched (py : Interpreter) (time : String) (snapshot out : Dict) : Prop where
  frame : ∀ key, key ≠ "manufacturing_context" → key ≠ "manufacturing_context_validation" →
    Assoc.get out key = Assoc.get snapshot key
  valid : ∀ mctx, fromFactorySnapshot py snapshot (some time) = .ok mctx →
    validateContextDict py (.dict mctx.toDict) = .ok [] ∧
    Assoc.get out "manufacturing_context" = some (.dict mctx.toDict) ∧
    Assoc.get out "manufacturing_context_validation" = some (.list [])
  failed : ∀ e, fromFactorySnapshot py snapshot (some time) = .error e →
    Assoc.get out "manufacturing_context_validation" = some (.list [.str "adapter_failed"])
  idempotent : enrichSnapshotForAgents py time (.dict out) = .ok (.dict out)

/-- Every snapshot is enriched, whatever values it has. -/
theorem enrichment_total (py : Interpreter) (time : String) (snapshot : Dict) :
    ∃ out, enrichSnapshotForAgents py time (.dict snapshot) = .ok (.dict out) ∧
      Enriched py time snapshot out := by
  refine ⟨_,enrich_eq py time snapshot,?_⟩
  constructor
  · intro key hcontext hvalidation
    unfold withContext
    rw [Assoc.get_set_of_ne hvalidation, Assoc.get_set_of_ne hcontext]
  · intro mctx hadapter
    have hentries : entries py time snapshot = (.dict mctx.toDict, .list []) := by
      unfold entries
      rw [hadapter]
    rw [hentries]
    refine ⟨validate_toDict (fromFactorySnapshot_valid hadapter),?_,?_⟩
    · exact withContext_context snapshot _ _
    · exact withContext_validation snapshot _ _
  · intro e hadapter
    have hvalidation : (entries py time snapshot).2 = .list [.str "adapter_failed"] := by
      unfold entries
      rw [hadapter]
    rw [withContext_validation, hvalidation]
  · rw [enrich_eq, entries_enriched, withContext_twice]

end ManufacturingMas.Proofs.ContextContract
