/-
What a file belongs to, whatever is uploaded and submitted at the same time.

A row may name any key.  That the key begins like those of its case is checked, and that there is an
object under it; that it was handed out for this case is not, and cannot be.  It follows, since the
bucket takes an object only under a key that was handed out, and since no key begins like those of
two folders (`InFolder.unique`).  `Sound` is the invariant, and `Later` is what stays: objects are
never removed, nor is evidence.
-/
import Asoju.Storage

namespace Asoju

open Lib

namespace Storage

variable {configured : Bool} {idText : Id → String}

/-! ## What a key says -/

/-- The key begins like the keys of the folder. -/
def InFolder (idText : Id → String) (f : Folder) (key : String) : Prop :=
  startsWith key (f.text idText ++ "/") = true

lemma toList_text (f : Folder) :
    (f.text idText ++ "/").toList =
      f.kind.text.toList ++ '/' :: ((idText f.owner).toList ++ ['/']) := by
  simp [Folder.text, String.toList_append]

lemma inFolder_iff {f : Folder} {key : String} :
    InFolder idText f key ↔ ∃ rest,
      key.toList = f.kind.text.toList ++ '/' :: ((idText f.owner).toList ++ '/' :: rest) := by
  rw [InFolder, startsWith, List.isPrefixOf_iff_prefix, toList_text]
  constructor
  · rintro ⟨rest, hrest⟩
    exact ⟨rest, by simpa using hrest.symm⟩
  · rintro ⟨rest, hrest⟩
    exact ⟨rest, by simpa using hrest.symm⟩

variable (idText) in
lemma inFolder_createKey (f : Folder) (fileName : Option String) (uuid : String) :
    InFolder idText f (createKey (f.text idText) fileName uuid) := by
  rw [inFolder_iff]
  refine ⟨uuid.toList ++ (fileName.elim "" extension).toList, ?_⟩
  simp [createKey, Folder.text, String.toList_append]

lemma text_slash (k : KeyKind) : '/' ∉ k.text.toList := by
  cases k <;> decide

lemma text_injective {k k' : KeyKind} (h : k.text.toList = k'.text.toList) : k = k' := by
  cases k <;> cases k' <;> first | rfl | exact absurd h (by decide)

/-- Two lists that are cut at the first `c` agree in both parts. -/
lemma append_cons_inj {c : Char} {x y : List Char} (hx : c ∉ x) (hy : c ∉ y) {r r' : List Char}
    (h : x ++ c :: r = y ++ c :: r') : x = y ∧ r = r' := by
  induction x generalizing y with
  | nil =>
    cases y with
    | nil => exact ⟨rfl, List.tail_eq_of_cons_eq h⟩
    | cons b y => exact absurd (List.mem_cons.mpr (Or.inl (List.head_eq_of_cons_eq h))) hy
  | cons a x ih =>
    cases y with
    | nil => exact absurd (List.mem_cons.mpr (Or.inl (List.head_eq_of_cons_eq h).symm)) hx
    | cons b y =>
      obtain rfl := List.head_eq_of_cons_eq h
      obtain ⟨rfl, hr⟩ := ih (List.not_mem_of_not_mem_cons hx) (List.not_mem_of_not_mem_cons hy)
        (List.tail_eq_of_cons_eq h)
      exact ⟨rfl, hr⟩

/-- A key is in one folder at most: no part of it before the second slash has a slash itself. -/
lemma InFolder.unique (hinj : Function.Injective idText)
    (hslash : ∀ i, '/' ∉ (idText i).toList) {f f' : Folder} {key : String}
    (h : InFolder idText f key) (h' : InFolder idText f' key) : f = f' := by
  obtain ⟨rest, hrest⟩ := inFolder_iff.mp h
  obtain ⟨rest', hrest'⟩ := inFolder_iff.mp h'
  obtain ⟨hkind, htail⟩ :=
    append_cons_inj (text_slash _) (text_slash _) (hrest.symm.trans hrest')
  obtain ⟨howner, -⟩ := append_cons_inj (hslash _) (hslash _) htail
  obtain ⟨kind, owner⟩ := f
  obtain ⟨kind', owner'⟩ := f'
  obtain rfl := text_injective hkind
  obtain rfl := hinj (String.toList_injective howner)
  rfl

/-! ## The invariant -/

/-- The key is one that was handed out for the folder, and its file is there. -/
def Issued (configured : Bool) (idText : Id → String) (f : Folder) (key : String) (s : Store) :
    Prop :=
  InFolder idText f key ∧ (configured = true → key ∈ s.objects ∧ ⟨f, key⟩ ∈ s.signed)

/-- The row under `i` is what the request has created on the case. -/
def Submitted (caseId : Id) (clientRequestId : Option String) (i : Id) (s : Store) : Prop :=
  ∃ e, s.evidence.get? i = some e ∧ e.caseId = caseId ∧ e.clientRequestId = clientRequestId

/-- Every row points to a file of its own folder, every object has a key that was handed out or is a
report, and no request has created two rows. -/
structure Sound (configured : Bool) (idText : Id → String) (s : Store) : Prop where
  evidence : ∀ i e, s.evidence.get? i = some e →
    Issued configured idText ⟨.evidence, e.caseId⟩ e.storageKey s
  document : ∀ i d, s.document.get? i = some d →
    Issued configured idText ⟨.documents, d.caseId⟩ d.storageKey s
  vault : ∀ i d, s.vaultDocument.get? i = some d → ∀ key, d.storageKey = some key → key ≠ "" →
    Issued configured idText ⟨.vault, d.customerId⟩ key s
  report : ∀ i r, s.report.get? i = some r → ∀ key, r.pdfStorageKey = some key →
    InFolder idText ⟨.reports, r.caseId⟩ key ∧ (configured = true → key ∈ s.objects)
  links : ∀ link ∈ s.signed, link.folder.kind ≠ .reports ∧ InFolder idText link.folder link.key
  objects : ∀ key ∈ s.objects, (∃ f, ⟨f, key⟩ ∈ s.signed) ∨ ∃ i, InFolder idText ⟨.reports, i⟩ key
  requests : ∀ i j caseId clientRequestId, clientRequestId ≠ none →
    Submitted caseId clientRequestId i s → Submitted caseId clientRequestId j s → i = j

/-- What stays: the links, the objects, the evidence, and the cases of the reports. -/
structure Later (s s' : Store) : Prop where
  signed : s.signed ⊆ s'.signed
  objects : s.objects ⊆ s'.objects
  evidence : ∀ i e, s.evidence.get? i = some e → s'.evidence.get? i = some e
  report : ∀ i r, s.report.get? i = some r → ∃ r', s'.report.get? i = some r' ∧ r'.caseId = r.caseId

lemma Later.refl (s : Store) : Later s s :=
  ⟨List.Subset.refl _, List.Subset.refl _, fun _ _ h => h, fun _ r h => ⟨r, h, rfl⟩⟩

lemma Later.trans {a b c : Store} (h : Later a b) (h' : Later b c) : Later a c where
  signed := List.Subset.trans h.signed h'.signed
  objects := List.Subset.trans h.objects h'.objects
  evidence := fun i e he => h'.evidence i e (h.evidence i e he)
  report := by
    intro i r hr
    obtain ⟨r', hr', hcase⟩ := h.report i r hr
    obtain ⟨r'', hr'', hcase'⟩ := h'.report i r' hr'
    exact ⟨r'', hr'', hcase'.trans hcase⟩

lemma Issued.later {f : Folder} {key : String} {s s' : Store} (h : Issued configured idText f key s)
    (hs : Later s s') : Issued configured idText f key s' :=
  ⟨h.1, fun hc => ⟨hs.objects (h.2 hc).1, hs.signed (h.2 hc).2⟩⟩

lemma Submitted.later {caseId : Id} {clientRequestId : Option String} {i : Id} {s s' : Store}
    (h : Submitted caseId clientRequestId i s) (hs : Later s s') :
    Submitted caseId clientRequestId i s' := by
  obtain ⟨e, he, hcase, hrequest⟩ := h
  exact ⟨e, hs.evidence i e he, hcase, hrequest⟩

/-- **What the two checks show.**  A key that begins like those of a folder, and under which there
is an object, was handed out for this folder. -/
lemma Sound.issued (hinj : Function.Injective idText) (hslash : ∀ i, '/' ∉ (idText i).toList)
    {s : Store} (hs : Sound configured idText s) {f : Folder} {key : String}
    (hkind : f.kind ≠ .reports) (hkey : InFolder idText f key)
    (hobject : configured = true → key ∈ s.objects) : Issued configured idText f key s := by
  refine ⟨hkey, fun hc => ⟨hobject hc, ?_⟩⟩
  rcases hs.objects key (hobject hc) with ⟨f', hf'⟩ | ⟨i, hi⟩
  · obtain rfl := hkey.unique hinj hslash (hs.links _ hf').2
    exact hf'
  · -- The files of the reports have a folder of their own.
    obtain rfl := hkey.unique hinj hslash hi
    exact absurd rfl hkind

/-! ## The writes -/

section Writes

variable {s : Store}

/-- A write that touches neither files nor the rows that point to them. -/
lemma Sound.frame (hs : Sound configured idText s) {s' : Store} (he : s'.evidence = s.evidence)
    (hd : s'.document = s.document) (hv : s'.vaultDocument = s.vaultDocument)
    (hr : s'.report = s.report) (hl : s'.signed = s.signed) (ho : s'.objects = s.objects) :
    Sound configured idText s' ∧ Later s s' := by
  obtain ⟨_, _, _, e, d, v, r, l, o⟩ := s
  obtain ⟨_, _, _, e', d', v', r', l', o'⟩ := s'
  dsimp only at he hd hv hr hl ho
  subst he hd hv hr hl ho
  exact ⟨⟨hs.1, hs.2, hs.3, hs.4, hs.5, hs.6, hs.7⟩,
    ⟨List.Subset.refl _, List.Subset.refl _, fun _ _ h => h, fun _ r h => ⟨r, h, rfl⟩⟩⟩

lemma Sound.sign (hs : Sound configured idText s) {f : Folder} {key : String}
    (hkind : f.kind ≠ .reports) (hkey : InFolder idText f key) :
    Sound configured idText { s with signed := s.signed ++ [⟨f, key⟩] } ∧
      Later s { s with signed := s.signed ++ [⟨f, key⟩] } := by
  have hlater : Later s { s with signed := s.signed ++ [⟨f, key⟩] } :=
    ⟨List.subset_append_left _ _, List.Subset.refl _, fun _ _ h => h, fun _ r h => ⟨r, h, rfl⟩⟩
  refine ⟨⟨fun i e h => (hs.evidence i e h).later hlater,
    fun i d h => (hs.document i d h).later hlater,
    fun i d h k hk hne => (hs.vault i d h k hk hne).later hlater, hs.report, ?_, ?_, hs.requests⟩,
    hlater⟩
  · intro link hlink
    rcases List.mem_append.mp hlink with hlink | hlink
    · exact hs.links link hlink
    · rw [List.mem_singleton.mp hlink]
      exact ⟨hkind, hkey⟩
  · intro k hk
    rcases hs.objects k hk with ⟨f', hf'⟩ | hreport
    · exact Or.inl ⟨f', List.mem_append_left _ hf'⟩
    · exact Or.inr hreport

lemma Sound.store (hs : Sound configured idText s) {key : String}
    (hkey : (∃ f, ⟨f, key⟩ ∈ s.signed) ∨ ∃ i, InFolder idText ⟨.reports, i⟩ key) :
    Sound configured idText { s with objects := s.objects ++ [key] } ∧
      Later s { s with objects := s.objects ++ [key] } := by
  have hlater : Later s { s with objects := s.objects ++ [key] } :=
    ⟨List.Subset.refl _, List.subset_append_left _ _, fun _ _ h => h, fun _ r h => ⟨r, h, rfl⟩⟩
  refine ⟨⟨fun i e h => (hs.evidence i e h).later hlater,
    fun i d h => (hs.document i d h).later hlater,
    fun i d h k hk hne => (hs.vault i d h k hk hne).later hlater, ?_, hs.links, ?_, hs.requests⟩,
    hlater⟩
  · intro i r hr k hk
    obtain ⟨hfolder, hobject⟩ := hs.report i r hr k hk
    exact ⟨hfolder, fun hc => List.mem_append_left _ (hobject hc)⟩
  · intro k hk
    rcases List.mem_append.mp hk with hk | hk
    · exact hs.objects k hk
    · rw [List.mem_singleton.mp hk]
      exact hkey

lemma Sound.insertEvidence (hs : Sound configured idText s) {e : EvidenceItem}
    (he : Issued configured idText ⟨.evidence, e.caseId⟩ e.storageKey s)
    (hnew : Storage.evidence.find (EvidenceService.isReplay e.caseId e.clientRequestId) s = none) :
    Sound configured idText (Storage.evidence.insert e s) ∧
      Later s (Storage.evidence.insert e s) := by
  have hget : ∀ i, (Storage.evidence.insert e s).evidence.get? i = (s.evidence.insert e).get? i :=
    fun _ => rfl
  have hlater : Later s (Storage.evidence.insert e s) :=
    ⟨List.Subset.refl _, List.Subset.refl _, fun i b h => Table.get?_insert_of_some h e,
      fun _ r h => ⟨r, h, rfl⟩⟩
  refine ⟨⟨?_, fun i d h => (hs.document i d h).later hlater,
    fun i d h k hk hne => (hs.vault i d h k hk hne).later hlater, hs.report, hs.links, hs.objects,
    ?_⟩, hlater⟩
  · intro i b hb
    rcases Table.get?_insert_cases hb with hb | ⟨-, rfl⟩
    · exact (hs.evidence i b hb).later hlater
    · exact he.later hlater
  · -- The new row is the first of its request.
    have hfirst : ∀ i caseId clientRequestId, clientRequestId ≠ none →
        Submitted caseId clientRequestId i s → e.caseId = caseId →
        e.clientRequestId = clientRequestId → False := by
      rintro i caseId clientRequestId hsome ⟨b, hb, hcase, hrequest⟩ rfl rfl
      have hfresh := TableOf.find_eq_none_iff.mp hnew i b hb
      rw [EvidenceService.isReplay, hcase, hrequest, Option.isSome_iff_ne_none.mpr hsome] at hfresh
      simp at hfresh
    rintro i j caseId clientRequestId hsome hi hj
    have hcases : ∀ i, Submitted caseId clientRequestId i (Storage.evidence.insert e s) →
        Submitted caseId clientRequestId i s ∨
          (i = s.evidence.next ∧ e.caseId = caseId ∧ e.clientRequestId = clientRequestId) := by
      rintro i ⟨b, hb, hcase, hrequest⟩
      rcases Table.get?_insert_cases hb with hold | ⟨hnext, rfl⟩
      · exact Or.inl ⟨b, hold, hcase, hrequest⟩
      · exact Or.inr ⟨hnext, hcase, hrequest⟩
    rcases hcases i hi with hi | ⟨rfl, hcase, hrequest⟩ <;>
      rcases hcases j hj with hj | ⟨rfl, hcase', hrequest'⟩
    · exact hs.requests i j caseId clientRequestId hsome hi hj
    · exact (hfirst i caseId clientRequestId hsome hi hcase' hrequest').elim
    · exact (hfirst j caseId clientRequestId hsome hj hcase hrequest).elim
    · rfl

lemma Sound.insertDocument (hs : Sound configured idText s) {d : Document}
    (hd : Issued configured idText ⟨.documents, d.caseId⟩ d.storageKey s) :
    Sound configured idText (documents.insert d s) ∧ Later s (documents.insert d s) := by
  have hlater : Later s (documents.insert d s) :=
    ⟨List.Subset.refl _, List.Subset.refl _, fun _ _ h => h, fun _ r h => ⟨r, h, rfl⟩⟩
  refine ⟨⟨fun i e h => (hs.evidence i e h).later hlater, ?_,
    fun i d h k hk hne => (hs.vault i d h k hk hne).later hlater, hs.report, hs.links, hs.objects,
    hs.requests⟩, hlater⟩
  intro i b hb
  rcases Table.get?_insert_cases hb with hb | ⟨-, rfl⟩
  · exact (hs.document i b hb).later hlater
  · exact hd.later hlater

lemma Sound.insertVaultDocument (hs : Sound configured idText s) {d : VaultDocument}
    (hd : ∀ key, d.storageKey = some key → key ≠ "" →
      Issued configured idText ⟨.vault, d.customerId⟩ key s) :
    Sound configured idText (vaultDocuments.insert d s) ∧ Later s (vaultDocuments.insert d s) := by
  have hlater : Later s (vaultDocuments.insert d s) :=
    ⟨List.Subset.refl _, List.Subset.refl _, fun _ _ h => h, fun _ r h => ⟨r, h, rfl⟩⟩
  refine ⟨⟨fun i e h => (hs.evidence i e h).later hlater,
    fun i d h => (hs.document i d h).later hlater, ?_, hs.report, hs.links, hs.objects,
    hs.requests⟩, hlater⟩
  intro i b hb k hk hne
  rcases Table.get?_insert_cases hb with hb | ⟨-, rfl⟩
  · exact (hs.vault i b hb k hk hne).later hlater
  · exact (hd k hk hne).later hlater

lemma Sound.insertReport (hs : Sound configured idText s) (caseId : Id) (now : Time) :
    Sound configured idText (reports.insert { caseId, createdAt := now } s) ∧
      Later s (reports.insert { caseId, createdAt := now } s) := by
  refine ⟨⟨hs.evidence, hs.document, hs.vault, ?_, hs.links, hs.objects, hs.requests⟩,
    ⟨List.Subset.refl _, List.Subset.refl _, fun _ _ h => h, fun i r h => ?_⟩⟩
  · intro i r hr key hkey
    rcases Table.get?_insert_cases hr with hr | ⟨-, rfl⟩
    · exact hs.report i r hr key hkey
    · cases hkey
  · exact ⟨r, Table.get?_insert_of_some h _, rfl⟩

lemma Sound.eraseDocument (hs : Sound configured idText s) (i : Id) :
    Sound configured idText { s with document := s.document.erase i } ∧
      Later s { s with document := s.document.erase i } := by
  refine ⟨⟨hs.evidence, fun j d h => ?_, hs.vault, hs.report, hs.links, hs.objects, hs.requests⟩,
    ⟨List.Subset.refl _, List.Subset.refl _, fun _ _ h => h, fun _ r h => ⟨r, h, rfl⟩⟩⟩
  rw [Table.get?_erase] at h
  split at h
  · cases h
  · exact hs.document j d h

lemma Sound.eraseVaultDocument (hs : Sound configured idText s) (i : Id) :
    Sound configured idText { s with vaultDocument := s.vaultDocument.erase i } ∧
      Later s { s with vaultDocument := s.vaultDocument.erase i } := by
  refine ⟨⟨hs.evidence, hs.document, fun j d h => ?_, hs.report, hs.links, hs.objects, hs.requests⟩,
    ⟨List.Subset.refl _, List.Subset.refl _, fun _ _ h => h, fun _ r h => ⟨r, h, rfl⟩⟩⟩
  rw [Table.get?_erase] at h
  split at h
  · cases h
  · exact hs.vault j d h

/-- The report gets the file that has been rendered for its case. -/
lemma Sound.render (hs : Sound configured idText s) {i : Id} {key : String}
    (hkey : ∀ r, s.report.get? i = some r → InFolder idText ⟨.reports, r.caseId⟩ key)
    (hobject : configured = true → key ∈ s.objects) :
    Sound configured idText (reports.modify i (fun r => { r with pdfStorageKey := some key }) s) ∧
      Later s (reports.modify i (fun r => { r with pdfStorageKey := some key }) s) := by
  refine ⟨⟨hs.evidence, hs.document, hs.vault, ?_, hs.links, hs.objects, hs.requests⟩,
    ⟨List.Subset.refl _, List.Subset.refl _, fun _ _ h => h, ?_⟩⟩
  · intro j r hr k hk
    change (s.report.modify i _).get? j = some r at hr
    rw [Table.get?_modify] at hr
    split at hr
    case isTrue hij =>
      obtain ⟨r', hr', rfl⟩ := Option.map_eq_some_iff.mp hr
      cases hk
      subst hij
      exact ⟨hkey r' hr', hobject⟩
    case isFalse => exact hs.report j r hr k hk
  · intro j r hr
    have hget : (reports.modify i (fun r => { r with pdfStorageKey := some key }) s).report.get? j =
        (s.report.modify i fun r => { r with pdfStorageKey := some key }).get? j := rfl
    rw [Table.get?_modify, hr] at hget
    split at hget
    case isTrue => exact ⟨{ r with pdfStorageKey := some key }, hget, rfl⟩
    case isFalse => exact ⟨r, hget, rfl⟩

end Writes

/-! ## The programs -/

/-- The program keeps the invariant and what stays, and its outcome is as `Q` says. -/
abbrev Keeps {α : Type} (configured : Bool) (idText : Id → String)
    (Q : Except HttpError α → Store → Prop) (K : Store → Prop) (m : Work α) : Prop :=
  m.Upholds (Sound configured idText) Later Q K

/-- The file that the key names is there, if there is a bucket, and the key is of the folder. -/
def Placed (configured : Bool) (idText : Id → String) (f : Folder) (key : String) (s : Store) :
    Prop :=
  InFolder idText f key ∧ (configured = true → key ∈ s.objects)

lemma Placed.later {f : Folder} {key : String} {s s' : Store} (h : Placed configured idText f key s)
    (hs : Later s s') : Placed configured idText f key s' :=
  ⟨h.1, fun hc => hs.objects (h.2 hc)⟩

/-- The response leads to the bucket if there is one. -/
def Linked (configured : Bool) (idText : Id → String) (f : Folder) (response : UploadResponse)
    (s : Store) : Prop :=
  InFolder idText f response.storageKey ∧
    (configured = false ∧ response.uploadUrl = .dryRun response.storageKey ∨
      configured = true ∧ response.uploadUrl = .signed response.storageKey ∧
        ⟨f, response.storageKey⟩ ∈ s.signed)

/-- What an upload or the check of an upload may be refused with. -/
def uploadRefusals : List HttpError :=
  [uploadFailed, notIssuedForCase, notIssuedForAccount, notUploaded]

section Programs

variable {α : Type} {K : Store → Prop}

lemma keeps_record_bind {Q : Except HttpError α → Store → Prop}
    (hstable : ∀ s s', K s → Later s s' → K s') {f : Unit → Work α}
    (h : Keeps configured idText Q K (f ())) : Keeps configured idText Q K (record >>= f) :=
  fun s hs hK => ⟨⟨hs, Later.refl s⟩, h.weaken fun s' _ hlater => hstable s s' hK hlater⟩

lemma keeps_linkInto {f : Folder} (hkind : f.kind ≠ .reports) (fileName uuid : String) :
    Keeps configured idText (fun r s => ∃ response, r = .ok response ∧
      Linked configured idText f response s) K (linkInto configured idText f fileName uuid) := by
  have hfolder := inFolder_createKey idText f (some fileName) uuid
  cases configured with
  | false => exact fun s _ _ => ⟨_, rfl, hfolder, Or.inl ⟨rfl, rfl⟩⟩
  | true =>
    refine fun s hs _ => ⟨hs.sign hkind hfolder, fun s' _ hlater => ?_⟩
    refine ⟨_, rfl, hfolder, Or.inr ⟨rfl, rfl, hlater.signed ?_⟩⟩
    exact List.mem_append_right _ (List.mem_singleton_self _)

/-- The bucket takes only what a link was signed for. -/
lemma Sound.put {s s' : Store} (hs : Sound configured idText s) {key : String} {encrypted : Bool}
    (h : s' = if accepts key encrypted s then { s with objects := s.objects ++ [key] } else s) :
    Sound configured idText s' ∧ Later s s' := by
  subst h
  split
  case isTrue h =>
    obtain ⟨link, hlink, hkey⟩ := List.any_eq_true.mp (Bool.and_eq_true_iff.mp h).2
    obtain rfl : link.key = key := of_decide_eq_true hkey
    exact hs.store (Or.inl ⟨link.folder, hlink⟩)
  case isFalse => exact ⟨hs, Later.refl s⟩

/-- A file that is put where a response says is there, unless the header is missing. -/
lemma keeps_putFile {f : Folder} {response : UploadResponse} (encrypted : Bool) :
    Keeps configured idText
      (fun r s => (∀ key, r = .ok key →
          Placed configured idText f key s ∧ (configured = true → encrypted = true)) ∧
        ∀ e, r = .error e → encrypted = false)
      (Linked configured idText f response) (putFile encrypted response) := by
  obtain ⟨key, url⟩ := response
  cases url with
  | dryRun k =>
    rintro s - ⟨hfolder, ⟨hc, -⟩ | ⟨-, hurl, -⟩⟩
    · refine ⟨fun key' hkey => ?_, fun e he => nomatch he⟩
      obtain rfl := Except.ok.inj hkey
      exact ⟨⟨hfolder, fun h => absurd (hc.symm.trans h) (by decide)⟩,
        fun h => absurd (hc.symm.trans h) (by decide)⟩
    · cases hurl
  | signed k =>
    rintro s hs ⟨hfolder, ⟨-, hurl⟩ | ⟨-, hurl, hlink⟩⟩
    · cases hurl
    obtain rfl : k = key := UploadUrl.signed.inj hurl
    refine ⟨hs.put rfl, ?_⟩
    have haccepts : accepts k encrypted s = encrypted := by
      rw [accepts, List.any_eq_true.mpr ⟨_, hlink, decide_eq_true rfl⟩, Bool.and_true]
    simp only [haccepts]
    cases encrypted with
    | false => exact fun s' _ _ => ⟨fun _ h => (nomatch h), fun _ _ => rfl⟩
    | true =>
      refine fun s' _ hlater => ⟨fun key' hkey => ?_, fun e he => nomatch he⟩
      obtain rfl := Except.ok.inj hkey
      refine ⟨⟨hfolder, fun _ => hlater.objects ?_⟩, fun _ => rfl⟩
      rw [if_pos rfl]
      exact List.mem_append_right _ (List.mem_singleton_self _)

/-- What a page has uploaded in its folder. -/
lemma keeps_uploadFile {f : Folder} {createUploadUrl : Work UploadResponse}
    (h : Keeps configured idText (fun r s => ∃ response, r = .ok response ∧
      Linked configured idText f response s) K createUploadUrl) :
    Keeps configured idText (fun r s => ∃ key, r = .ok key ∧ Placed configured idText f key s) K
      (uploadFile createUploadUrl) := by
  refine h.bind (fun response => ?_) fun e s _ h => nomatch h
  refine ((keeps_putFile (f := f) true).weaken fun s _ hlinked => ?_).conseq fun r s _ hr => ?_
  · obtain ⟨response', hresponse, hlinked⟩ := hlinked
    obtain rfl := Except.ok.inj hresponse
    exact hlinked
  · cases r with
    | ok key => exact ⟨key, rfl, (hr.1 key rfl).1⟩
    | error e => exact absurd (hr.2 e rfl) (by decide)

lemma keeps_requireRestriction (hstable : ∀ s s', K s → Later s s' → K s') (caseId : Id)
    (dto : DocumentsService.CreateDocumentDto) :
    Keeps configured idText (fun r s => K s ∧ ∀ e, r = .error e → e ∉ uploadRefusals) K
      (DocumentsService.requireRestriction caseId dto) := by
  rw [DocumentsService.requireRestriction]
  split
  case isFalse => exact fun s _ hK => ⟨hK, fun e h => nomatch h⟩
  case isTrue =>
    cases dto.restrictedToAssignmentId with
    | none => exact fun s _ hK => ⟨hK, fun e he => by cases he; decide⟩
    | some assignmentId =>
      refine .read_bind Later.refl fun s hs hK => ?_
      split
      · exact fun s' _ hlater => ⟨hstable s s' hK hlater, fun e he => by cases he; decide⟩
      · exact fun s' _ hlater => ⟨hstable s s' hK hlater, fun e h => nomatch h⟩

lemma keeps_deleteDocument (actor : AuthenticatedUser) (caseId documentId : Id) :
    Keeps configured idText (fun _ _ => True) K
      (DocumentsService.deleteDocument actor caseId documentId) := by
  refine .read_bind Later.refl fun s hs hK => ?_
  cases ((documents.get s).get? documentId).filter fun d => d.caseId = caseId with
  | none => exact fun _ _ _ => trivial
  | some document =>
    dsimp only
    split
    · exact fun _ _ _ => trivial
    · refine fun s' hs' _ => ⟨hs'.eraseDocument documentId, ?_⟩
      exact fun s'' hs'' _ => ⟨⟨hs'', Later.refl s''⟩, fun _ _ _ => trivial⟩

lemma keeps_requireCustomer (hstable : ∀ s s', K s → Later s s' → K s') (userId : Id) :
    Keeps configured idText (fun r s => K s ∧ ∀ e, r = .error e → e ∉ uploadRefusals) K
      (VaultService.requireCustomer userId) := by
  refine .read_bind Later.refl fun s hs hK => ?_
  cases customers.find (fun c => c.userId = userId) s with
  | none => exact fun s' _ hlater => ⟨hstable s s' hK hlater, fun e he => by cases he; decide⟩
  | some p => exact fun s' _ hlater => ⟨hstable s s' hK hlater, fun e h => nomatch h⟩

lemma keeps_deleteVaultDocument (user : AuthenticatedUser) (documentId : Id) :
    Keeps configured idText (fun _ _ => True) (fun _ => True)
      (VaultService.deleteDocument user documentId) := by
  refine .bind (keeps_requireCustomer (fun _ _ _ _ => trivial) user.id) (fun customerId => ?_)
    fun _ _ _ _ => trivial
  refine .read_bind Later.refl fun s hs _ => ?_
  cases (vaultDocuments.get s).get? documentId with
  | none => exact fun _ _ _ => trivial
  | some document =>
    dsimp only
    split
    · exact fun _ _ _ => trivial
    · refine fun s' hs' _ => ⟨hs'.eraseVaultDocument documentId, ?_⟩
      exact fun s'' hs'' _ => ⟨⟨hs'', Later.refl s''⟩, fun _ _ _ => trivial⟩

section Checked

variable (hinj : Function.Injective idText) (hslash : ∀ i, '/' ∉ (idText i).toList)

include hinj hslash

/-- A key that passes the check was handed out for the folder; and a key whose file is in place
passes it.  `P` says whether this is known. -/
lemma keeps_checkUploaded {f : Folder} (hkind : f.kind ≠ .reports) (notIssued : HttpError)
    {key : String} {P : Prop} (hplaced : ∀ s, K s → P → Placed configured idText f key s) :
    Keeps configured idText
      (fun r s => (r = .ok () → Issued configured idText f key s) ∧ ∀ e, r = .error e → ¬ P) K
      (checkUploaded configured idText notIssued f key) := by
  rw [checkUploaded]
  by_cases hkey : startsWith key (f.text idText ++ "/") = true
  case neg =>
    rw [if_pos hkey]
    exact fun s _ hK => ⟨fun h => (nomatch h), fun _ _ hP => hkey (hplaced s hK hP).1⟩
  rw [if_neg (not_not_intro hkey)]
  cases configured with
  | false =>
    refine fun s hs _ => ⟨fun _ => ?_, fun e h => nomatch h⟩
    exact hs.issued hinj hslash hkind hkey fun h => absurd h (by decide)
  | true =>
    refine fun s hs hK => ⟨⟨hs, Later.refl s⟩, ?_⟩
    by_cases hobject : key ∈ s.objects
    · simp only [hobject, decide_true]
      refine fun s' hs' hlater => ⟨fun _ => ?_, fun e h => nomatch h⟩
      exact hs'.issued hinj hslash hkind hkey fun _ => hlater.objects hobject
    · simp only [hobject, decide_false]
      exact fun s' _ _ => ⟨fun h => (nomatch h), fun _ _ hP => hobject ((hplaced s hK hP).2 rfl)⟩

/-- What a submission of evidence leaves: the row of its request. -/
lemma keeps_createEvidence (actor : AuthenticatedUser) {caseId : Id}
    {dto : EvidenceService.CreateEvidenceDto} {P : Prop}
    (hplaced : ∀ s, K s → P → Placed configured idText ⟨.evidence, caseId⟩ dto.storageKey s) :
    Keeps configured idText
      (fun r s => (∀ i, r = .ok i → Submitted caseId dto.clientRequestId i s) ∧
        ∀ e, r = .error e → P → e ∉ uploadRefusals) K
      (EvidenceService.createEvidence configured idText actor caseId dto) := by
  refine .read_bind Later.refl fun s hs hK => ?_
  cases (cases.get s).get? caseId with
  | none => exact fun s' _ _ => ⟨fun _ h => (nomatch h), fun e he _ => by cases he; decide⟩
  | some serviceCase =>
    dsimp only
    split
    case isTrue =>
      refine fun s' _ _ => ⟨fun _ h => (nomatch h), fun e he _ => ?_⟩
      cases he
      cases serviceCase.status <;> decide
    case isFalse =>
      refine .bind (keeps_checkUploaded hinj hslash (f := ⟨.evidence, caseId⟩) nofun
        notIssuedForCase (P := P) fun s' hlater hP => (hplaced s hK hP).later hlater) (fun _ => ?_)
        fun e s' _ h => ⟨fun _ h => (nomatch h), fun _ _ hP => absurd hP (h.2 e rfl)⟩
      intro s' hs' hissued
      beta_reduce
      cases hfind : evidence.find (EvidenceService.isReplay caseId dto.clientRequestId) s' with
      | some p =>
        exact ⟨⟨hs', Later.refl s'⟩, fun _ _ _ => ⟨fun _ h => (nomatch h), fun e he _ => by
          cases he; decide⟩⟩
      | none =>
        have hinsert := hs'.insertEvidence (e := ⟨caseId, dto.taskId, actor.id, dto.type,
          dto.description, dto.storageKey, dto.clientRequestId⟩) (hissued.1 rfl) hfind
        refine ⟨hinsert, ?_⟩
        refine keeps_record_bind (fun _ _ => Later.trans) fun s'' _ hlater =>
          ⟨fun i hi => ?_, fun e he => nomatch he⟩
        obtain rfl := Except.ok.inj hi
        exact ⟨_, hlater.evidence _ _ (Table.get?_insert_self _ _), rfl, rfl⟩

lemma keeps_submitEvidence (actor : AuthenticatedUser) {caseId : Id}
    {dto : EvidenceService.CreateEvidenceDto} {P : Prop}
    (hstable : ∀ s s', K s → Later s s' → K s')
    (hplaced : ∀ s, K s → P → Placed configured idText ⟨.evidence, caseId⟩ dto.storageKey s) :
    Keeps configured idText
      (fun r s => (∀ i, r = .ok i → Submitted caseId dto.clientRequestId i s) ∧
        ∀ e, r = .error e → P → e ∉ uploadRefusals) K
      (EvidenceService.submitEvidence configured idText actor caseId dto) := by
  have hcreate := keeps_createEvidence hinj hslash actor hplaced
  rw [EvidenceService.submitEvidence, EvidenceService.findSubmitted]
  split
  case isTrue => exact hcreate
  case isFalse hrequest =>
    refine .read_bind Later.refl fun s hs hK => ?_
    cases hfind : evidence.find (EvidenceService.isReplay caseId dto.clientRequestId) s with
    | none => exact hcreate.weaken fun s' _ hlater => hstable s s' hK hlater
    | some p =>
      -- The request has been served before: the row is the one that it has created.
      refine fun s' _ hlater => ⟨fun i hi => ?_, fun e he => nomatch he⟩
      obtain rfl := Except.ok.inj hi
      obtain ⟨hrow, hreplay⟩ := TableOf.find_eq_some hfind
      simp only [EvidenceService.isReplay, Bool.and_eq_true, decide_eq_true_eq] at hreplay
      exact ⟨p.2, hlater.evidence _ _ hrow, hreplay.1.2, hreplay.2⟩

lemma keeps_addDocument (actor : AuthenticatedUser) {caseId : Id}
    {dto : DocumentsService.CreateDocumentDto} (now : Time) {P : Prop}
    (hstable : ∀ s s', K s → Later s s' → K s')
    (hplaced : ∀ s, K s → P → Placed configured idText ⟨.documents, caseId⟩ dto.storageKey s) :
    Keeps configured idText (fun r _ => ∀ e, r = .error e → P → e ∉ uploadRefusals) K
      (DocumentsService.addDocument configured idText actor caseId dto now) := by
  refine .bind (keeps_requireRestriction hstable caseId dto) (fun _ => ?_)
    fun e s _ h e' he' _ => Except.error.inj he' ▸ h.2 e rfl
  refine .bind (keeps_checkUploaded hinj hslash (f := ⟨.documents, caseId⟩) nofun notIssuedForCase
    (P := P) fun s h hP => hplaced s h.1 hP) (fun _ => ?_)
    fun e s _ h _ _ hP => absurd hP (h.2 e rfl)
  intro s hs hissued
  exact ⟨hs.insertDocument (hissued.1 rfl),
    keeps_record_bind (fun _ _ => Later.trans) fun _ _ _ e he => nomatch he⟩

lemma keeps_addVaultDocument (user : AuthenticatedUser)
    (dto : VaultService.CreateVaultDocumentDto) :
    Keeps configured idText (fun _ _ => True) (fun _ => True)
      (VaultService.addDocument configured idText user dto) := by
  refine .bind (keeps_requireCustomer (fun _ _ _ _ => trivial) user.id) (fun customerId => ?_)
    fun _ _ _ _ => trivial
  -- Only a key that is not empty is checked, and only such a key names a file.
  have hcheck : Keeps configured idText
      (fun r s => r = .ok () → ∀ key, dto.storageKey = some key → key ≠ "" →
        Issued configured idText ⟨.vault, customerId⟩ key s) (fun _ => True)
      (VaultService.checkKey configured idText customerId dto.storageKey) := by
    cases dto.storageKey with
    | none => exact fun _ _ _ _ _ h => nomatch h
    | some key =>
      rw [VaultService.checkKey]
      split
      case isTrue hempty =>
        rintro _ - - - k hk hne
        obtain rfl := Option.some.inj hk
        exact absurd hempty hne
      case isFalse =>
        refine (keeps_checkUploaded hinj hslash (f := ⟨.vault, customerId⟩) nofun
          notIssuedForAccount (P := False) fun _ _ h => h.elim).conseq ?_
        rintro r s - ⟨hissued, -⟩ hr k hk -
        obtain rfl := Option.some.inj hk
        exact hissued hr
  refine .bind (hcheck.weaken fun _ _ _ => trivial) (fun _ => ?_) fun _ _ _ _ => trivial
  intro s hs hissued
  exact ⟨hs.insertVaultDocument (hissued rfl),
    keeps_record_bind (fun _ _ => Later.trans) fun _ _ _ => trivial⟩

end Checked

lemma latestReport_spec {caseId i : Id} {r : RenderedReport} {s : Store}
    (h : CaseReportPdfService.latestReport caseId s = some (i, r)) :
    s.report.get? i = some r ∧ r.caseId = caseId := by
  have hmem := List.mem_of_mem_head? h
  rw [mem_sortDesc, List.mem_filter] at hmem
  exact ⟨(Table.mem_rows_iff _).mp hmem.1, of_decide_eq_true hmem.2⟩

lemma keeps_getReportPdfUrl (caseId : Id) (uuid : String) :
    Keeps configured idText (fun _ _ => True) K
      (CaseReportPdfService.getReportPdfUrl configured idText caseId uuid) := by
  refine .read_bind Later.refl fun s hs _ => ?_
  cases (cases.get s).get? caseId with
  | none => exact fun _ _ _ => trivial
  | some serviceCase =>
    refine .read_bind Later.refl fun s' hs' _ => ?_
    cases hlatest : CaseReportPdfService.latestReport caseId s' with
    | none => exact fun _ _ _ => trivial
    | some p =>
      obtain ⟨i, r⟩ := p
      obtain ⟨hrow, hcase⟩ := latestReport_spec hlatest
      dsimp only
      cases r.pdfStorageKey with
      | some key => exact fun _ _ _ => trivial
      | none =>
        have hfolder := inFolder_createKey idText ⟨.reports, caseId⟩
          (some (idText i ++ ".pdf")) uuid
        -- The report stays with its case while it is rendered.
        have hkey : ∀ s'', Later s' s'' → ∀ r', s''.report.get? i = some r' →
            InFolder idText ⟨.reports, r'.caseId⟩ (createKey
              (Folder.text idText ⟨.reports, caseId⟩) (some (idText i ++ ".pdf")) uuid) := by
          intro s'' hlater r' hr'
          obtain ⟨r'', hr'', hcase'⟩ := hlater.report i r hrow
          obtain rfl := Option.some.inj (hr'.symm.trans hr'')
          rw [hcase', hcase]
          exact hfolder
        cases configured with
        | false =>
          refine fun s'' hs'' hlater => ⟨hs''.render (hkey s'' hlater) nofun, ?_⟩
          dsimp only
          split <;> exact fun _ _ _ => trivial
        | true =>
          intro s'' hs'' hlater
          have hstore := hs''.store (Or.inr ⟨caseId, hfolder⟩)
          refine ⟨hstore, fun s₃ hs₃ hlater' => ⟨hs₃.render ?_ fun _ => ?_, ?_⟩⟩
          · exact hkey s₃ (hlater.trans (hstore.2.trans hlater'))
          · exact hlater'.objects (List.mem_append_right _ (List.mem_singleton_self _))
          · dsimp only
            split <;> exact fun _ _ _ => trivial

/-! ### The pages -/

section Pages

variable (hinj : Function.Injective idText) (hslash : ∀ i, '/' ∉ (idText i).toList)

include hinj hslash

lemma keeps_fieldPage (actor : AuthenticatedUser) (caseId : Id) (fileName uuid : String)
    (dto : EvidenceService.CreateEvidenceDto) :
    Keeps configured idText
      (fun r s => (∀ i, r = .ok i → Submitted caseId dto.clientRequestId i s) ∧
        ∀ e, r = .error e → e ∉ uploadRefusals) K
      (fieldPage configured idText actor caseId fileName uuid dto) := by
  refine .bind (keeps_uploadFile (keeps_linkInto (f := ⟨.evidence, caseId⟩) nofun fileName uuid))
    (fun key => .of_exists fun key' => ?_) fun e s _ h => nomatch h
  refine ((keeps_submitEvidence hinj hslash actor (P := True)
    (K := Placed configured idText ⟨.evidence, caseId⟩ key)
    (fun _ _ => Placed.later) fun _ h _ => h).weaken fun s _ h => ?_).conseq
    fun r s _ h => ⟨h.1, fun e he => h.2 e he trivial⟩
  obtain rfl := Except.ok.inj h.1
  exact h.2

lemma keeps_casePage (actor : AuthenticatedUser) (caseId : Id) (fileName uuid : String)
    (dto : DocumentsService.CreateDocumentDto) (now : Time) :
    Keeps configured idText (fun r _ => ∀ e, r = .error e → e ∉ uploadRefusals) K
      (casePage configured idText actor caseId fileName uuid dto now) := by
  refine .bind (keeps_uploadFile (keeps_linkInto (f := ⟨.documents, caseId⟩) nofun fileName uuid))
    (fun key => .of_exists fun key' => ?_) fun e s _ h => nomatch h
  refine ((keeps_addDocument hinj hslash actor now (P := True)
    (K := Placed configured idText ⟨.documents, caseId⟩ key)
    (fun _ _ => Placed.later) fun _ h _ => h).weaken fun s _ h => ?_).conseq
    fun r s _ h e he => h e he trivial
  obtain rfl := Except.ok.inj h.1
  exact h.2

/-- The header is missing, so that the page of the vault gets through only without a bucket. -/
lemma keeps_vaultPage (user : AuthenticatedUser) (fileName uuid : String)
    (dto : VaultService.CreateVaultDocumentDto) :
    Keeps configured idText (fun r _ => ∀ i, r = .ok i → configured = false) (fun _ => True)
      (vaultPage configured idText user fileName uuid dto) := by
  have hlink : Keeps configured idText (fun r s => ∀ response, r = .ok response →
      ∃ f, Linked configured idText f response s) (fun _ => True)
      (VaultService.createUploadUrl configured idText user fileName uuid) := by
    refine .bind (keeps_requireCustomer (fun _ _ _ _ => trivial) user.id) (fun customerId => ?_)
      fun e s _ _ response h => nomatch h
    refine (keeps_linkInto (f := ⟨.vault, customerId⟩) nofun fileName uuid).conseq ?_
    rintro r s - ⟨response, rfl, hlinked⟩ response' h
    obtain rfl := Except.ok.inj h
    exact ⟨_, hlinked⟩
  have hupload : Keeps configured idText (fun r _ => ∀ key, r = .ok key → configured = false)
      (fun _ => True)
      (uploadVaultFile (VaultService.createUploadUrl configured idText user fileName uuid)) := by
    refine .bind hlink (fun response => ?_) fun e s _ _ key h => nomatch h
    refine (Prog.Upholds.of_exists fun f => ?_).weaken fun s _ h => h response rfl
    refine (keeps_putFile false).conseq fun r s _ h key hkey => ?_
    rw [← Bool.not_eq_true]
    exact fun hc => absurd ((h.1 key hkey).2 hc) (by decide)
  refine .bind hupload (fun key => ?_) fun e s _ _ i h => nomatch h
  cases configured with
  | false => exact (keeps_addVaultDocument hinj hslash user _).conseq (fun _ _ _ _ _ _ => rfl)
      |>.weaken fun _ _ _ => trivial
  | true => exact .of_not fun s h => absurd (h key rfl) (by decide)

end Pages

end Programs

/-! ## Calls that run concurrently -/

/-- A call that concerns the files, or one from elsewhere: to the bucket, or to the rest of the
platform, which may change the customers, the cases and the assignments in any way. -/
inductive StorageCall
  | evidenceUploadUrl (caseId : Id) (fileName uuid : String)
  | submitEvidence (actor : AuthenticatedUser) (caseId : Id)
      (dto : EvidenceService.CreateEvidenceDto)
  | documentUploadUrl (caseId : Id) (fileName uuid : String)
  | addDocument (actor : AuthenticatedUser) (caseId : Id)
      (dto : DocumentsService.CreateDocumentDto) (now : Time)
  | deleteDocument (actor : AuthenticatedUser) (caseId documentId : Id)
  | vaultUploadUrl (user : AuthenticatedUser) (fileName uuid : String)
  | addVaultDocument (user : AuthenticatedUser) (dto : VaultService.CreateVaultDocumentDto)
  | deleteVaultDocument (user : AuthenticatedUser) (documentId : Id)
  | getReportPdfUrl (caseId : Id) (uuid : String)
  | fieldPage (actor : AuthenticatedUser) (caseId : Id) (fileName uuid : String)
      (dto : EvidenceService.CreateEvidenceDto)
  | casePage (actor : AuthenticatedUser) (caseId : Id) (fileName uuid : String)
      (dto : DocumentsService.CreateDocumentDto) (now : Time)
  | vaultPage (user : AuthenticatedUser) (fileName uuid : String)
      (dto : VaultService.CreateVaultDocumentDto)
  | put (key : String) (encrypted : Bool)
  | issueReport (caseId : Id) (now : Time)
  | elsewhere (customer : Table Customer) (serviceCase : Table ServiceCase)
      (assignment : Table Assignment)

namespace StorageCall

/-- The call as a program, with the row that it answers. -/
def code (configured : Bool) (idText : Id → String) : StorageCall → Work (Option Id)
  | evidenceUploadUrl caseId fileName uuid =>
      EvidenceService.createUploadUrl configured idText caseId fileName uuid >>= fun _ => pure none
  | submitEvidence actor caseId dto =>
      EvidenceService.submitEvidence configured idText actor caseId dto >>= fun i => pure (some i)
  | documentUploadUrl caseId fileName uuid =>
      DocumentsService.createUploadUrl configured idText caseId fileName uuid >>= fun _ => pure none
  | addDocument actor caseId dto now =>
      DocumentsService.addDocument configured idText actor caseId dto now >>= fun i => pure (some i)
  | deleteDocument actor caseId documentId =>
      DocumentsService.deleteDocument actor caseId documentId >>= fun _ => pure none
  | vaultUploadUrl user fileName uuid =>
      VaultService.createUploadUrl configured idText user fileName uuid >>= fun _ => pure none
  | addVaultDocument user dto =>
      VaultService.addDocument configured idText user dto >>= fun i => pure (some i)
  | deleteVaultDocument user documentId =>
      VaultService.deleteDocument user documentId >>= fun _ => pure none
  | getReportPdfUrl caseId uuid =>
      CaseReportPdfService.getReportPdfUrl configured idText caseId uuid >>= fun _ => pure none
  | fieldPage actor caseId fileName uuid dto =>
      Storage.fieldPage configured idText actor caseId fileName uuid dto >>= fun i => pure (some i)
  | casePage actor caseId fileName uuid dto now =>
      Storage.casePage configured idText actor caseId fileName uuid dto now >>=
        fun i => pure (some i)
  | vaultPage user fileName uuid dto =>
      Storage.vaultPage configured idText user fileName uuid dto >>= fun i => pure (some i)
  | put key encrypted => Storage.put key encrypted >>= fun _ => pure none
  | issueReport caseId now =>
      Client.create reports { caseId, createdAt := now } >>= fun i => pure (some i)
  | elsewhere customer serviceCase assignment =>
      .write .transaction (fun s => { s with customer, serviceCase, assignment }) >>=
        fun _ => pure none

/-- The request of a client that the call serves. -/
def request : StorageCall → Option (Id × Option String)
  | submitEvidence _ caseId dto => some (caseId, dto.clientRequestId)
  | fieldPage _ caseId _ _ dto => some (caseId, dto.clientRequestId)
  | _ => none

/-- The call comes from the page of a case, which has uploaded the file itself. -/
def FromCasePage : StorageCall → Prop
  | fieldPage _ _ _ _ _ => True
  | casePage _ _ _ _ _ _ => True
  | _ => False

def FromVaultPage : StorageCall → Prop
  | vaultPage _ _ _ _ => True
  | _ => False

/-- What is known of the outcome of a call. -/
structure Delivers (configured : Bool) (c : StorageCall) (r : Except HttpError (Option Id))
    (s : Store) : Prop where
  submitted : ∀ caseId clientRequestId i, c.request = some (caseId, clientRequestId) →
    r = .ok (some i) → Submitted caseId clientRequestId i s
  accepted : c.FromCasePage → ∀ e, r = .error e → e ∉ uploadRefusals
  refused : c.FromVaultPage → ∀ i, r = .ok i → configured = false

/-- A program whose row is passed on. -/
lemma delivers_some {c : StorageCall} {m : Work Id}
    (h : Keeps configured idText
      (fun r s => (∀ caseId clientRequestId i, c.request = some (caseId, clientRequestId) →
          r = .ok i → Submitted caseId clientRequestId i s) ∧
        (c.FromCasePage → ∀ e, r = .error e → e ∉ uploadRefusals) ∧
        (c.FromVaultPage → ∀ i, r = .ok i → configured = false)) (fun _ => True) m) :
    Keeps configured idText (Delivers configured c) (fun _ => True)
      (m >>= fun i => pure (some i)) := by
  refine .bind h (fun i s _ hs => ⟨fun caseId clientRequestId j hc hj => ?_,
    fun _ e he => (nomatch he), fun hc _ _ => hs.2.2 hc i rfl⟩)
    fun e s _ hs => ⟨fun _ _ _ _ h => (nomatch h), fun hc e' he' => ?_, fun _ _ h => nomatch h⟩
  · obtain rfl := Option.some.inj (Except.ok.inj hj)
    exact hs.1 caseId clientRequestId i hc rfl
  · exact Except.error.inj he' ▸ hs.2.1 hc e rfl

/-- A program of which nothing more is to be known. -/
lemma delivers_none {α : Type} {c : StorageCall} {m : Work α} (hrequest : c.request = none)
    (hcase : ¬ c.FromCasePage) (hvault : ¬ c.FromVaultPage)
    (h : Keeps configured idText (fun _ _ => True) (fun _ => True) m) (f : α → Option Id) :
    Keeps configured idText (Delivers configured c) (fun _ => True)
      (m >>= fun a => pure (f a)) := by
  have hall : ∀ r s, Delivers configured c r s := fun r s =>
    ⟨fun _ _ _ hc => absurd (hrequest.symm.trans hc) nofun, fun hc => absurd hc hcase,
      fun hc => absurd hc hvault⟩
  exact .bind h (fun a s _ _ => hall _ s) fun e s _ _ => hall _ s

section Code

variable (hinj : Function.Injective idText) (hslash : ∀ i, '/' ∉ (idText i).toList)

include hinj hslash

/-- Every call keeps the invariant, and delivers what it should. -/
lemma keeps_code (c : StorageCall) :
    Keeps configured idText (Delivers configured c) (fun _ => True) (c.code configured idText) := by
  cases c with
  | evidenceUploadUrl caseId fileName uuid =>
    exact delivers_none rfl id id ((keeps_linkInto (f := ⟨.evidence, caseId⟩) nofun _ _).conseq
      fun _ _ _ _ => trivial) _
  | documentUploadUrl caseId fileName uuid =>
    exact delivers_none rfl id id ((keeps_linkInto (f := ⟨.documents, caseId⟩) nofun _ _).conseq
      fun _ _ _ _ => trivial) _
  | vaultUploadUrl user fileName uuid =>
    refine delivers_none rfl id id (.bind (keeps_requireCustomer (fun _ _ _ _ => trivial) user.id)
      (fun customerId => ?_) fun _ _ _ _ => trivial) _
    exact (keeps_linkInto (f := ⟨.vault, customerId⟩) nofun _ _).conseq fun _ _ _ _ => trivial
  | submitEvidence actor caseId dto =>
    refine delivers_some ((keeps_submitEvidence hinj hslash actor (P := False)
      (fun _ _ _ _ => trivial) fun _ _ h => h.elim).conseq fun r s _ h => ⟨?_, nofun, nofun⟩)
    intro caseId' clientRequestId i hc hi
    obtain ⟨rfl, rfl⟩ := Prod.mk.inj (Option.some.inj hc)
    exact h.1 i hi
  | fieldPage actor caseId fileName uuid dto =>
    refine delivers_some ((keeps_fieldPage hinj hslash actor caseId fileName uuid dto).conseq
      fun r s _ h => ⟨?_, fun _ => h.2, nofun⟩)
    intro caseId' clientRequestId i hc hi
    obtain ⟨rfl, rfl⟩ := Prod.mk.inj (Option.some.inj hc)
    exact h.1 i hi
  | addDocument actor caseId dto now =>
    exact delivers_none rfl id id ((keeps_addDocument hinj hslash actor now (P := False)
      (fun _ _ _ _ => trivial) fun _ _ h => h.elim).conseq fun _ _ _ _ => trivial) some
  | casePage actor caseId fileName uuid dto now =>
    exact delivers_some ((keeps_casePage hinj hslash actor caseId fileName uuid dto now).conseq
      fun r s _ h => ⟨nofun, fun _ => h, nofun⟩)
  | addVaultDocument user dto =>
    exact delivers_none rfl id id (keeps_addVaultDocument hinj hslash user dto) some
  | vaultPage user fileName uuid dto =>
    exact delivers_some ((keeps_vaultPage hinj hslash user fileName uuid dto).conseq
      fun r s _ h => ⟨nofun, nofun, fun _ => h⟩)
  | deleteDocument actor caseId documentId =>
    exact delivers_none rfl id id (keeps_deleteDocument actor caseId documentId) _
  | deleteVaultDocument user documentId =>
    exact delivers_none rfl id id (keeps_deleteVaultDocument user documentId) _
  | getReportPdfUrl caseId uuid =>
    exact delivers_none rfl id id (keeps_getReportPdfUrl caseId uuid) _
  | put key encrypted =>
    have hput : Keeps configured idText (fun _ _ => True) (fun _ => True)
        (Storage.put key encrypted) := fun s hs _ => ⟨hs.put rfl, fun _ _ _ => trivial⟩
    exact delivers_none rfl id id hput _
  | issueReport caseId now =>
    have hissue : Keeps configured idText (fun _ _ => True) (fun _ => True)
        (Client.create reports { caseId, createdAt := now }) :=
      fun s hs _ => ⟨hs.insertReport caseId now, fun _ _ _ => trivial⟩
    exact delivers_none rfl id id hissue some
  | elsewhere customer serviceCase assignment =>
    have hframe : Keeps configured idText (fun _ _ => True) (fun _ => True)
        (.write .transaction fun s => { s with customer, serviceCase, assignment }) :=
      fun s hs _ => ⟨hs.frame rfl rfl rfl rfl rfl rfl, fun _ _ _ => trivial⟩
    exact delivers_none rfl id id hframe _

end Code

/-! ### What a run leaves -/

/-- The system after calls have run concurrently, from `s` on. -/
def run (configured : Bool) (idText : Id → String) (s : Store) (es : List (Event StorageCall)) :
    Pool Store (Access Model) HttpError (Option Id) StorageCall :=
  runFrom (Pool.step (code configured idText)) (Pool.idle s) es

end StorageCall

/-- A row of the folder names the key. -/
def Store.Points (s : Store) (f : Folder) (key : String) : Prop :=
  match f.kind with
  | .evidence => ∃ i e, s.evidence.get? i = some e ∧ e.caseId = f.owner ∧ e.storageKey = key
  | .documents => ∃ i d, s.document.get? i = some d ∧ d.caseId = f.owner ∧ d.storageKey = key
  | .vault => key ≠ "" ∧ ∃ i d, s.vaultDocument.get? i = some d ∧ d.customerId = f.owner ∧
      d.storageKey = some key
  | .reports => ∃ i r, s.report.get? i = some r ∧ r.caseId = f.owner ∧ r.pdfStorageKey = some key

lemma Sound.points {s : Store} (hs : Sound configured idText s) {f : Folder} {key : String}
    (h : s.Points f key) : Placed configured idText f key s ∧
      (configured = true → f.kind = .reports ∨ ⟨f, key⟩ ∈ s.signed) := by
  obtain ⟨kind, owner⟩ := f
  cases kind with
  | evidence =>
    obtain ⟨i, e, he, rfl, rfl⟩ := h
    obtain ⟨hfolder, hissued⟩ := hs.evidence i e he
    exact ⟨⟨hfolder, fun hc => (hissued hc).1⟩, fun hc => Or.inr (hissued hc).2⟩
  | documents =>
    obtain ⟨i, d, hd, rfl, rfl⟩ := h
    obtain ⟨hfolder, hissued⟩ := hs.document i d hd
    exact ⟨⟨hfolder, fun hc => (hissued hc).1⟩, fun hc => Or.inr (hissued hc).2⟩
  | vault =>
    obtain ⟨hne, i, d, hd, rfl, hkey⟩ := h
    obtain ⟨hfolder, hissued⟩ := hs.vault i d hd key hkey hne
    exact ⟨⟨hfolder, fun hc => (hissued hc).1⟩, fun hc => Or.inr (hissued hc).2⟩
  | reports =>
    obtain ⟨i, r, hr, rfl, hkey⟩ := h
    exact ⟨hs.report i r hr key hkey, fun _ => Or.inl rfl⟩

namespace StorageCall

section Run

variable (hinj : Function.Injective idText) (hslash : ∀ i, '/' ∉ (idText i).toList)

include hinj hslash

/-- **A row points only to a file of its own.**  However the calls are interleaved, the key of a row
belongs to no other case and to no other customer; and where there is a bucket, its file is there,
under a link that was handed out for this folder, unless the platform has made the file itself. -/
theorem provenance {s : Store} (hs : Sound configured idText s) (es : List (Event StorageCall))
    {f : Folder} {key : String} (h : (run configured idText s es).shared.Points f key) :
    (configured = true → key ∈ (run configured idText s es).shared.objects ∧
      (f.kind = .reports ∨ ⟨f, key⟩ ∈ (run configured idText s es).shared.signed)) ∧
    ∀ f', (run configured idText s es).shared.Points f' key → f' = f := by
  have hend : Sound configured idText (run configured idText s es).shared :=
    (Pool.upheld Later.refl (fun _ _ _ => Later.trans) hs es fun c _ =>
      keeps_code hinj hslash c).1.1
  obtain ⟨hplaced, hlink⟩ := hend.points h
  refine ⟨fun hc => ⟨hplaced.2 hc, hlink hc⟩, fun f' h' => ?_⟩
  exact (hend.points h').1.1.unique hinj hslash hplaced.1

/-- **A submission that is sent again creates nothing new**: whatever answers two requests with the
same key get, at whatever time, they name the same row, and it is there. -/
theorem submitted_once {s : Store} (hs : Sound configured idText s)
    (es : List (Event StorageCall))
    {t u : Thread Store (Access Model) HttpError (Option Id) StorageCall}
    (ht : t ∈ (run configured idText s es).threads)
    (hu : u ∈ (run configured idText s es).threads) {caseId : Id} {key : String}
    (hrequest : t.call.request = some (caseId, some key))
    (hrequest' : u.call.request = some (caseId, some key)) {i j : Id}
    (hi : t.rest = .ret (some i)) (hj : u.rest = .ret (some j)) :
    i = j ∧ Submitted caseId (some key) i (run configured idText s es).shared := by
  have hend := (Pool.upheld Later.refl (fun _ _ _ => Later.trans) hs es
    fun c _ => keeps_code hinj hslash c).1
  have hfirst : Delivers configured t.call (.ok (some i)) (run configured idText s es).shared :=
    hend.returned ht hi
  have hsecond : Delivers configured u.call (.ok (some j)) (run configured idText s es).shared :=
    hend.returned hu hj
  have hrow := hfirst.submitted caseId (some key) i hrequest rfl
  have hrow' := hsecond.submitted caseId (some key) j hrequest' rfl
  exact ⟨hend.1.requests i j caseId (some key) nofun hrow hrow', hrow⟩

end Run

/-! ### A run -/

/-- Ids written in strokes. -/
def strokes (i : Id) : String := String.ofList (List.replicate (i + 1) 'i')

lemma strokes_injective : Function.Injective strokes := by
  intro i j h
  have hlength := congrArg (fun s => s.toList.length) h
  simpa [strokes] using hlength

lemma strokes_slash (i : Id) : '/' ∉ (strokes i).toList := by simp [strokes]

/-- A customer with a case that is in progress, and no files yet. -/
def noFiles : Store where
  customer := Table.empty.insert { userId := 1 }
  serviceCase := Table.empty.insert
    { customerId := 0, serviceType := .propertyInspection, description := "Gate and roof"
      location := "Lekki", status := .inProgress }

lemma sound_noFiles (configured : Bool) (idText : Id → String) :
    Sound configured idText noFiles where
  evidence := nofun
  document := nofun
  vault := nofun
  report := nofun
  links := nofun
  objects := nofun
  requests := by
    rintro i j caseId clientRequestId - ⟨e, he, -⟩
    cases he

/-- A photo of the gate. -/
def gatePhoto : EvidenceService.CreateEvidenceDto where
  type := .photo
  storageKey := "evidence/i/u1.jpg"
  clientRequestId := some "r1"

/-- The page in the field uploads and submits a photo, and sends the submission again. -/
def resubmission : List (Event StorageCall) :=
  .start (.fieldPage ⟨7, .fieldAgent⟩ 0 "gate.jpg" "u1" gatePhoto) ::
    .start (.submitEvidence ⟨7, .fieldAgent⟩ 0 gatePhoto) ::
      (List.replicate 7 (.sched 0) ++ [.sched 1])

lemma points_resubmission :
    (run true strokes noFiles resubmission).shared.Points ⟨.evidence, 0⟩ "evidence/i/u1.jpg" :=
  ⟨0, ⟨0, none, 7, .photo, none, "evidence/i/u1.jpg", some "r1"⟩, by decide +kernel, rfl, rfl⟩

theorem provenance_resubmission :
    (true = true → "evidence/i/u1.jpg" ∈ (run true strokes noFiles resubmission).shared.objects ∧
      (KeyKind.evidence = .reports ∨ ⟨⟨.evidence, 0⟩, "evidence/i/u1.jpg"⟩ ∈
        (run true strokes noFiles resubmission).shared.signed)) ∧
    ∀ f', (run true strokes noFiles resubmission).shared.Points f' "evidence/i/u1.jpg" →
      f' = ⟨.evidence, 0⟩ :=
  provenance strokes_injective strokes_slash (sound_noFiles true strokes) resubmission
    points_resubmission

/-- The page of the vault uploads a title deed. -/
def deedUpload : List (Event StorageCall) :=
  .start (.vaultPage ⟨1, .customer⟩ "deed.pdf" "u2" { name := "Title deed" }) ::
    List.replicate 3 (.sched 0)

/-- What becomes of it. -/
def deedThread : Thread Store (Access Model) HttpError (Option Id) StorageCall :=
  (run true strokes noFiles deedUpload).threads.head (by decide)

example : deedThread.rest = .fail uploadFailed := rfl

/-- The submission by the page, and the one that was sent again. -/
def firstThread : Thread Store (Access Model) HttpError (Option Id) StorageCall :=
  (run true strokes noFiles resubmission).threads.head (by decide)

def secondThread : Thread Store (Access Model) HttpError (Option Id) StorageCall :=
  (run true strokes noFiles resubmission).threads.getLast (by decide)

theorem submitted_once_resubmission :
    (0 : Id) = 0 ∧ Submitted 0 (some "r1") 0 (run true strokes noFiles resubmission).shared :=
  submitted_once strokes_injective strokes_slash (sound_noFiles true strokes) resubmission
    (t := firstThread) (u := secondThread) (List.head_mem _) (List.getLast_mem _) rfl rfl rfl rfl

end StorageCall

end Storage

end Asoju
