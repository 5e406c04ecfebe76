/-
# What opening accepts

The reader of a payload, in the two directions.  The frame of a payload is opened to its plaintext
and content type (`exists_decrypt`).  Conversely nothing is written before the whole stream has
been found to have the expected identity and the length its header announces
(`identity_of_staging_ne`), and a stream none of whose parts is a forgery opens only if every
chunk was sealed under the stream's own header at its own index (`eq_of_decrypt`): a chunk is
bound to both by its associated data.
-/
import ElastosRuntime.Custody.Frame

namespace ElastosRuntime.Custody

open Codec Contracts Streams AuthenticatedChunkPayloadHeaderV1

/-! ## 1. What a chunk is bound to -/

/-- The last eight bytes of a chunk's associated data are its index, those before its header. -/
theorem chunkAad_inj {header header' : AuthenticatedChunkPayloadHeaderV1} {i j : Nat}
    (hvalid : header.validate = .ok ()) (hvalid' : header'.validate = .ok ())
    (hi : i < header.chunks) (hj : j < header'.chunks) (h : chunkAad header i = chunkAad header' j) :
    header = header' ∧ i = j := by
  obtain ⟨hheader, hindex⟩ := List.append_inj' h (by rw [beBytes_length, beBytes_length])
  have hi' : (UInt64.ofNat i).toNat = i := UInt64.toNat_ofNat_of_lt' (hi.trans (chunks_lt hvalid))
  have hj' : (UInt64.ofNat j).toNat = j := UInt64.toNat_ofNat_of_lt' (hj.trans (chunks_lt hvalid'))
  have hsame := congrArg ofBeBytes hindex
  rw [ofBeBytes_beBytes (UInt64.toNat_lt _), ofBeBytes_beBytes (UInt64.toNat_lt _), hi', hj']
    at hsame
  exact ⟨bytes_inj hvalid hvalid' (List.append_cancel_left hheader), hsame⟩

/-- Folding different bytes of one length into the same bytes. -/
theorem zipWith_xor_inj {base : List UInt8} : ∀ {bs bs' : List UInt8}, bs.length = bs'.length →
    bs.length ≤ base.length →
      List.zipWith (· ^^^ ·) base bs = List.zipWith (· ^^^ ·) base bs' → bs = bs' := by
  induction base with
  | nil =>
    intro bs bs' hsame hshort _
    have hnil : bs = [] := List.eq_nil_of_length_eq_zero (Nat.le_zero.mp hshort)
    have hnil' : bs' = [] := List.eq_nil_of_length_eq_zero (by rw [← hsame, hnil, List.length_nil])
    rw [hnil, hnil']
  | cons c base ih =>
    intro bs bs' hsame hshort h
    cases bs with
    | nil => exact (List.eq_nil_of_length_eq_zero hsame.symm).symm
    | cons b bs =>
      cases bs' with
      | nil => cases hsame
      | cons b' bs' =>
        rw [List.zipWith_cons_cons, List.zipWith_cons_cons, List.cons.injEq] at h
        rw [List.length_cons, List.length_cons, Nat.add_right_cancel_iff] at hsame
        rw [(UInt8.xor_right_inj c).mp h.1, ih hsame (Nat.le_of_succ_le_succ hshort) h.2]

/-- Under one header no two chunks share a nonce. -/
theorem chunkNonce_inj {header : AuthenticatedChunkPayloadHeaderV1} {i j : Nat}
    (hvalid : header.validate = .ok ()) (hi : i < header.chunks) (hj : j < header.chunks)
    (h : chunkNonce header.baseNonce (UInt64.ofNat i) =
      chunkNonce header.baseNonce (UInt64.ofNat j)) : i = j := by
  have hi' : (UInt64.ofNat i).toNat = i := UInt64.toNat_ofNat_of_lt' (hi.trans (chunks_lt hvalid))
  have hj' : (UInt64.ofNat j).toNat = j := UInt64.toNat_ofNat_of_lt' (hj.trans (chunks_lt hvalid))
  have hfolded := List.append_cancel_left (congrArg List.Vector.toList h)
  have hindex := zipWith_xor_inj (by rw [beBytes_length, beBytes_length])
    (by rw [beBytes_length, List.length_drop, header.baseNonce.length_toList]) hfolded
  have hsame := congrArg ofBeBytes hindex
  rwa [ofBeBytes_beBytes (UInt64.toNat_lt _), ofBeBytes_beBytes (UInt64.toNat_lt _), hi', hj']
    at hsame

/-! ## 2. Moving about in the ciphertext -/

section

variable {s s' : OpenState}

/-- The same call, with the reader somewhere else. -/
structure Moved (s : OpenState) (position : Nat) (s' : OpenState) : Prop where
  at_ : s.ciphertext.At position s'.ciphertext
  staging : s'.staging = s.staging

theorem Moved.trans {s'' : OpenState} {p q : Nat} (h : Moved s p s') (h' : Moved s' q s'') :
    Moved s q s'' :=
  ⟨h.at_.trans h'.at_, h'.staging.trans h.staging⟩

variable {α : Type}

theorem does_onCiphertext {f : Source → Except CustodyError α × Source} {a : α} :
    (onCiphertext f).Does s a s' ↔
      ∃ reader, f s.ciphertext = (.ok a, reader) ∧ s' = { s with ciphertext := reader } :=
  Effect.does_zoom

theorem moved_of_seekTo {position : Nat} (h : (seekTo position).Does s () s') :
    Moved s position s' := by
  obtain ⟨reader, hseek, rfl⟩ := does_onCiphertext.mp h
  obtain ⟨hresult, rfl⟩ := Prod.ext_iff.mp hseek
  exact ⟨Source.seek_eq_ok (Prod.ext (mapError_eq_ok.mp hresult) rfl), rfl⟩

theorem exists_seekTo (hs : s.ciphertext.Unfailing) (position : Nat) :
    ∃ s', (seekTo position).Does s () s' ∧ Moved s position s' := by
  obtain ⟨reader, hseek, hat⟩ := Source.exists_seek hs position
  refine ⟨{ s with ciphertext := reader }, does_onCiphertext.mpr ⟨reader, ?_, rfl⟩, hat, rfl⟩
  simp only [hseek]
  rfl

variable {field : String} {bytes : List UInt8}

variable {length i : Nat}

theorem moved_of_read (h : (readExactPayloadBytes length field).Does s bytes s') :
    bytes = s.ciphertext.rest.take length ∧ bytes.length = length ∧
      Moved s (s.ciphertext.position + length) s' := by
  obtain ⟨reader, hread, rfl⟩ := does_onCiphertext.mp h
  obtain ⟨hbytes, hlen, hat⟩ := Source.readExact_eq_ok hread
  exact ⟨hbytes, hlen, hat, rfl⟩

variable {tail body plaintext : List UInt8}

/-- What comes next is read when it is as long as what was asked for. -/
theorem exists_read (hs : s.ciphertext.Unfailing) (field : String)
    (hrest : s.ciphertext.rest = bytes ++ tail) :
    ∃ s', (readExactPayloadBytes bytes.length field).Does s bytes s' ∧
      Moved s (s.ciphertext.position + bytes.length) s' := by
  obtain ⟨reader, hread, hat⟩ : ∃ reader, Source.readExact (CustodyError.invalidPayload field)
      .payloadIo bytes.length s.ciphertext = (.ok (s.ciphertext.rest.take bytes.length), reader) ∧
        s.ciphertext.At (s.ciphertext.position + bytes.length) reader :=
    Source.exists_readExact hs (by rw [hrest, List.length_append]; omega)
  rw [hrest, List.take_left] at hread
  exact ⟨{ s with ciphertext := reader }, does_onCiphertext.mpr ⟨reader, hread, rfl⟩, hat, rfl⟩

/-- ... and then what comes after it is next. -/
theorem Moved.rest (hrest : s.ciphertext.rest = bytes ++ tail)
    (h : Moved s (s.ciphertext.position + bytes.length) s') : s'.ciphertext.rest = tail := by
  rw [h.at_.rest, ← List.drop_drop, ← Source.rest, hrest, List.drop_left]

/-! ### Programs on the ciphertext leave the staging writer alone -/

/-- Whatever becomes of it, nothing is staged. -/
def StagesNothing {α : Type} (x : Opening α) : Prop :=
  x.Extends fun s s' => s'.staging = s.staging

theorem StagesNothing.bind {β : Type} {x : Opening α} {f : α → Opening β} (hx : StagesNothing x)
    (hf : ∀ a, StagesNothing (f a)) : StagesNothing (x >>= f) :=
  Effect.Extends.bind (fun h h' => h'.trans h) hx hf

theorem StagesNothing.lift (x : Except CustodyError α) :
    StagesNothing (liftM x : Opening α) := fun _ => rfl

theorem stagesNothing_onCiphertext (f : Source → Except CustodyError α × Source) :
    StagesNothing (onCiphertext f) := fun _ => rfl

theorem stagesNothing_readFramedHeader : StagesNothing readFramedHeaderFromReaderV1 :=
  .bind (stagesNothing_onCiphertext _) fun _ => .bind (stagesNothing_onCiphertext _) fun _ =>
    .bind (.lift _) fun _ => .bind (stagesNothing_onCiphertext _) fun _ =>
      .bind (stagesNothing_onCiphertext _) fun _ => .bind (.lift _) fun _ =>
        .bind (.lift _) fun _ _ => rfl

theorem stagesNothing_verify [Crypto] (expected : EncryptedContentIdentityV1) :
    StagesNothing (verifyFramedCiphertextIdentityV1 expected) :=
  .bind stagesNothing_readFramedHeader fun _ => .bind (.lift _) fun _ =>
    .bind (stagesNothing_onCiphertext _) fun _ => .bind (stagesNothing_onCiphertext _) fun _ =>
      .bind (.lift _) fun _ => .bind (.lift _) fun _ => .bind (.lift _) fun _ _ => rfl

/-! ## 3. The header -/

theorem rest_of_read (h : (readExactPayloadBytes length field).Does s bytes s') :
    s.ciphertext.rest = bytes ++ s'.ciphertext.rest := by
  obtain ⟨rfl, hlen, hmoved⟩ := moved_of_read h
  rw [hmoved.at_.rest, ← List.drop_drop, ← Source.rest, List.take_append_drop]

variable {header : AuthenticatedChunkPayloadHeaderV1}

/-- **The header that was read stands at the start of the stream**, and the offset is behind it. -/
theorem does_readFramedHeader {prefixLen : UInt64}
    (h : readFramedHeaderFromReaderV1.Does s (header, prefixLen) s') :
    header.validate = .ok () ∧ header.framePrefix <+: s.ciphertext.contents ∧
      prefixLen.toNat = header.framePrefix.length ∧ ∃ position, Moved s position s' := by
  obtain ⟨⟨⟩, s₁, hseek, h⟩ := Effect.does_bind.mp h
  obtain ⟨magic, s₂, hmagic, h⟩ := Effect.does_bind.mp h
  obtain ⟨⟨⟩, hcheck, h⟩ := Effect.does_check.mp h
  obtain ⟨lenBytes, s₃, hlenBytes, h⟩ := Effect.does_bind.mp h
  obtain ⟨headerBytes, s₄, hheaderBytes, h⟩ := Effect.does_bind.mp h
  obtain ⟨decoded, hdecoded, h⟩ := Effect.does_check.mp h
  obtain ⟨offset, hoffset, h⟩ := Effect.does_check.mp h
  obtain ⟨hresult, rfl⟩ := Effect.does_pure.mp h
  obtain ⟨rfl, rfl⟩ := Prod.mk.inj hresult
  rw [failIf_eq_ok, not_not] at hcheck
  rw [okOr_eq_ok, checkedAdd_eq_some] at hoffset
  obtain ⟨hvalid, rfl⟩ := decodeHeaderBytesV1_eq_ok hdecoded
  have hstart := moved_of_seekTo hseek
  obtain ⟨-, -, hmoved₂⟩ := moved_of_read hmagic
  obtain ⟨-, htwo, hmoved₃⟩ := moved_of_read hlenBytes
  obtain ⟨-, hlen, hmoved₄⟩ := moved_of_read hheaderBytes
  have hcontents : s₁.ciphertext.rest = s.ciphertext.contents := by
    rw [hstart.at_.rest, List.drop_zero]
  have hbytes : lenBytes = beBytes 2 decoded.bytes.length := by
    rw [hlen]
    exact (beBytes_ofBeBytes htwo).symm
  refine ⟨hvalid, ⟨s₄.ciphertext.rest, ?_⟩, ?_, _, hstart.trans (hmoved₂.trans
    (hmoved₃.trans hmoved₄))⟩
  · rw [← hcontents, rest_of_read hmagic, rest_of_read hlenBytes, rest_of_read hheaderBytes, hcheck,
      hbytes, framePrefix, List.append_assoc, List.append_assoc]
  · have hshort := encodedLen_lt (validate_basic hvalid)
    have hheader : (UInt64.ofNat (ofBeBytes lenBytes)).toNat = ofBeBytes lenBytes :=
      UInt64.toNat_ofNat_of_lt' (show ofBeBytes lenBytes < 2 ^ 64 by
        rw [← hlen, length_bytes]
        omega)
    rw [hoffset, hheader, ← hlen, length_bytes, length_framePrefix]
    rfl

/-- The header of a stream that starts with one is read. -/
theorem exists_readFramedHeader (hs : s.ciphertext.Unfailing) (hvalid : header.validate = .ok ())
    (hcontents : s.ciphertext.contents = header.framePrefix ++ body) :
    ∃ prefixLen s', readFramedHeaderFromReaderV1.Does s (header, prefixLen) s' := by
  have hshort := encodedLen_lt (validate_basic hvalid)
  obtain ⟨s₁, hseek, hmoved₁⟩ := exists_seekTo hs 0
  have hrest₁ : s₁.ciphertext.rest = PAYLOAD_MAGIC_V1.toList ++
      (beBytes 2 header.bytes.length ++ (header.bytes ++ body)) := by
    rw [hmoved₁.at_.rest, List.drop_zero, hcontents, framePrefix, List.append_assoc,
      List.append_assoc]
  have hs₁ := hmoved₁.at_.unfailing hs
  obtain ⟨s₂, hmagic, hmoved₂⟩ := exists_read hs₁ "framed_ciphertext_bytes" hrest₁
  have hs₂ := hmoved₂.at_.unfailing hs₁
  obtain ⟨s₃, hlenBytes, hmoved₃⟩ := exists_read hs₂ "header_bytes" (hmoved₂.rest hrest₁)
  have hs₃ := hmoved₃.at_.unfailing hs₂
  obtain ⟨s₄, hheaderBytes, -⟩ :=
    exists_read hs₃ "header_bytes" (hmoved₃.rest (hmoved₂.rest hrest₁))
  rw [beBytes_length] at hlenBytes
  have hlen : ofBeBytes (beBytes 2 header.bytes.length) = header.bytes.length := by
    refine ofBeBytes_beBytes ?_
    rw [length_bytes]
    omega
  obtain ⟨prefixLen, hprefixLen, -⟩ := exists_checkedAdd
    (a := UInt64.ofNat (4 + PAYLOAD_HEADER_LENGTH_BYTES_V1))
    (b := UInt64.ofNat (ofBeBytes (beBytes 2 header.bytes.length))) (by
      have hsix : (UInt64.ofNat (4 + PAYLOAD_HEADER_LENGTH_BYTES_V1)).toNat = 6 := rfl
      rw [hsix, hlen, length_bytes, UInt64.toNat_ofNat']
      omega)
  rw [← hlen] at hheaderBytes
  refine ⟨prefixLen, s₄, hseek.bind (hmagic.bind ?_)⟩
  refine Effect.does_check.mpr ⟨(), failIf_eq_ok.mpr (not_not.mpr rfl), ?_⟩
  refine hlenBytes.bind (hheaderBytes.bind (.check (decodeHeaderBytesV1_bytes hvalid) ?_))
  exact .check (okOr_eq_ok.mpr hprefixLen) rfl

/-! ## 4. The identity -/

variable {pieces : List (List UInt8)}

/-- What counting the pieces of a stream comes to. -/
theorem foldlM_countPiece :
    ∀ {seen seen' : List UInt8 × UInt64}, (∀ piece ∈ pieces, piece.length < 2 ^ 64) →
      pieces.foldlM countPiece seen = .ok seen' →
        seen'.1 = seen.1 ++ pieces.flatten ∧
          seen'.2.toNat = seen.2.toNat + pieces.flatten.length := by
  induction pieces with
  | nil =>
    intro seen seen' _ h
    cases h
    rw [List.flatten_nil, List.append_nil]
    exact ⟨rfl, rfl⟩
  | cons piece pieces ih =>
    intro seen seen' hsmall h
    obtain ⟨hpiece, hsmall⟩ := List.forall_mem_cons.mp hsmall
    obtain ⟨next, hnext, h⟩ := bind_eq_ok.mp h
    obtain ⟨total, htotal, hnext⟩ := bind_eq_ok.mp hnext
    cases hnext
    obtain ⟨hseen, hcount⟩ := ih hsmall h
    have htotal := checkedAdd_eq_some.mp (okOr_eq_ok.mp htotal)
    rw [UInt64.toNat_ofNat_of_lt' hpiece] at htotal
    rw [hseen, hcount, htotal, List.flatten_cons, List.append_assoc, List.length_append]
    exact ⟨rfl, Nat.add_assoc _ _ _⟩

theorem exists_foldlM_countPiece :
    ∀ {seen : List UInt8 × UInt64}, seen.2.toNat + pieces.flatten.length < 2 ^ 64 →
      ∃ seen', pieces.foldlM countPiece seen = .ok seen' := by
  induction pieces with
  | nil => exact fun {seen} _ => ⟨seen, rfl⟩
  | cons piece pieces ih =>
    intro seen hfits
    rw [List.flatten_cons, List.length_append] at hfits
    have hpiece : (UInt64.ofNat piece.length).toNat = piece.length :=
      UInt64.toNat_ofNat_of_lt' (show piece.length < 2 ^ 64 by omega)
    obtain ⟨total, htotal, htotalNat⟩ :=
      exists_checkedAdd (a := seen.2) (b := UInt64.ofNat piece.length) (by rw [hpiece]; omega)
    have hrest : total.toNat + pieces.flatten.length < 2 ^ 64 := by
      rw [htotalNat, hpiece]
      omega
    obtain ⟨seen', hseen'⟩ := @ih (seen.1 ++ piece, total) hrest
    exact ⟨seen', bind_eq_ok.mpr ⟨_, bind_eq_ok.mpr ⟨total, okOr_eq_ok.mpr htotal, rfl⟩, hseen'⟩⟩

variable [Crypto] {expected : EncryptedContentIdentityV1}
  {header : AuthenticatedChunkPayloadHeaderV1} {prefixLen : UInt64}

/-- The stream is what its identity and its header say it is. -/
structure Identified (expected : EncryptedContentIdentityV1)
    (header : AuthenticatedChunkPayloadHeaderV1) (contents : List UInt8) : Prop where
  valid : header.validate = .ok ()
  starts : header.framePrefix <+: contents
  hash : Crypto.sha256 contents = expected.ciphertextSha256
  length : contents.length = expected.ciphertextBytes.toNat
  announced : header.expectedFramedBytes = .ok expected.ciphertextBytes

omit [Crypto] in
/-- What an accepted header announces is the length of an identity. -/
theorem valid_of_announced (hvalid : header.validate = .ok ())
    (h : header.expectedFramedBytes = .ok expected.ciphertextBytes) : expected.validate = .ok () := by
  have hlength := expectedFramedBytes_eq_ok h
  refine rejectIf_eq_ok.mpr (not_or.mpr ⟨?_, ?_⟩)
  · rw [← UInt64.toNat_inj, hlength, UInt64.toNat_zero, framedLength]
    omega
  · rw [UInt64.not_lt, UInt64.le_iff_toNat_le, hlength]
    exact (validate_eq_ok.mp hvalid).2

/-- **A stream that passes the check is what its identity says.** -/
theorem does_verify
    (h : (verifyFramedCiphertextIdentityV1 expected).Does s (header, prefixLen) s') :
    Identified expected header s.ciphertext.contents ∧
      prefixLen.toNat = header.framePrefix.length ∧ ∃ position, Moved s position s' := by
  obtain ⟨⟨read, offset⟩, s₁, hread, h⟩ := Effect.does_bind.mp h
  obtain ⟨framed, hframed, h⟩ := Effect.does_check.mp h
  obtain ⟨⟨⟩, s₂, hseek, h⟩ := Effect.does_bind.mp h
  obtain ⟨⟨hashed, total⟩, s₃, hdrain, h⟩ := Effect.does_bind.mp h
  obtain ⟨⟨⟩, htotal, h⟩ := Effect.does_check.mp h
  obtain ⟨actual, hactual, h⟩ := Effect.does_check.mp h
  obtain ⟨⟨⟩, hsame, h⟩ := Effect.does_check.mp h
  obtain ⟨hresult, rfl⟩ := Effect.does_pure.mp h
  obtain ⟨rfl, rfl⟩ := Prod.mk.inj hresult
  obtain ⟨hvalid, hstarts, hoffset, position, hmoved₁⟩ := does_readFramedHeader hread
  have hmoved₂ := hmoved₁.trans (moved_of_seekTo hseek)
  obtain ⟨reader, hdrained, rfl⟩ := does_onCiphertext.mp hdrain
  obtain ⟨⟨pieces, hpieces, hsmall, hfold⟩, position', hat⟩ :=
    Source.drain_eq_ok (show 0 < PAYLOAD_IDENTITY_VERIFY_BUFFER_BYTES_V1 by decide) hdrained
  obtain ⟨hhashed, hcount⟩ := foldlM_countPiece
    (fun piece hpiece => Nat.lt_of_le_of_lt (hsmall piece hpiece) (by decide)) hfold
  rw [hpieces, hmoved₂.at_.rest, List.drop_zero] at hhashed hcount
  rw [failIf_eq_ok, not_not] at htotal hsame
  obtain ⟨⟨⟩, -, hbuilt⟩ := bind_eq_ok.mp (mapError_eq_ok.mp hactual)
  cases hbuilt
  subst hsame
  refine ⟨⟨hvalid, hstarts, ?_, ?_, ?_⟩, hoffset, position',
    hmoved₂.at_.trans hat, hmoved₂.staging⟩
  · rw [show hashed = s.ciphertext.contents from hhashed]
  · exact (hcount.trans (Nat.zero_add _)).symm
  · rw [hframed, htotal]

/-- A frame passes under its own identity. -/
theorem exists_verify (hs : s.ciphertext.Unfailing)
    (hcontents : s.ciphertext.contents = header.framePrefix ++ body)
    (hidentified : Identified expected header s.ciphertext.contents) :
    ∃ prefixLen s', (verifyFramedCiphertextIdentityV1 expected).Does s (header, prefixLen) s' := by
  obtain ⟨hvalid, hstarts, hhash, hlength, hannounced⟩ := hidentified
  obtain ⟨prefixLen, s₁, hread⟩ := exists_readFramedHeader hs hvalid hcontents
  obtain ⟨-, -, -, position, hmoved₁⟩ := does_readFramedHeader hread
  obtain ⟨s₂, hseek, hmoved₂⟩ := exists_seekTo (hmoved₁.at_.unfailing hs) 0
  have hs₂ := hmoved₂.at_.unfailing (hmoved₁.at_.unfailing hs)
  have hrest : s₂.ciphertext.rest = s.ciphertext.contents := by
    rw [(hmoved₁.trans hmoved₂).at_.rest, List.drop_zero]
  obtain ⟨⟨hashed, total⟩, reader, hdrain⟩ : ∃ seen reader,
      Source.drain CustodyError.payloadIo PAYLOAD_IDENTITY_VERIFY_BUFFER_BYTES_V1 countPiece
        ([], 0) s₂.ciphertext = (.ok seen, reader) := by
    refine Source.exists_drain hs₂ fun pieces hpieces => exists_foldlM_countPiece ?_
    rw [hpieces, hrest, hlength, UInt64.toNat_zero, Nat.zero_add]
    exact UInt64.toNat_lt _
  obtain ⟨⟨pieces, hpieces, hsmall, hfold⟩, -⟩ :=
    Source.drain_eq_ok (show 0 < PAYLOAD_IDENTITY_VERIFY_BUFFER_BYTES_V1 by decide) hdrain
  obtain ⟨hhashed, hcount⟩ := foldlM_countPiece
    (fun piece hpiece => Nat.lt_of_le_of_lt (hsmall piece hpiece) (by decide)) hfold
  simp only [hpieces, hrest, List.nil_append, UInt64.toNat_zero, Nat.zero_add] at hhashed hcount
  subst hhashed
  have htotal : total = expected.ciphertextBytes := by
    rw [← UInt64.toNat_inj, hcount, hlength]
  have hnew : EncryptedContentIdentityV1.new (Crypto.sha256 s.ciphertext.contents) total =
      .ok expected := by
    rw [hhash, htotal]
    exact build_eq (valid_of_announced hvalid hannounced)
  refine ⟨prefixLen, { s₂ with ciphertext := reader }, hread.bind (.check hannounced ?_)⟩
  refine hseek.bind (.bind (does_onCiphertext.mpr ⟨reader, hdrain, rfl⟩) ?_)
  refine Effect.does_check.mpr ⟨(), failIf_eq_ok.mpr (not_not.mpr htotal), ?_⟩
  refine .check (mapError_eq_ok.mpr hnew) ?_
  exact Effect.does_check.mpr ⟨(), failIf_eq_ok.mpr (not_not.mpr rfl), rfl⟩

/-! ## 5. The chunks -/

variable [Aes256Gcm] {key : ContentEncryptionKeyV1}

/-- How far the opening of a frame is before the chunk at an index. -/
structure OpenedUpTo (key : ContentEncryptionKeyV1) (header : AuthenticatedChunkPayloadHeaderV1)
    (plaintext : List UInt8) (o : OpenState) (i : Nat) (s : OpenState) : Prop where
  position : o.ciphertext.At
    (header.framePrefix.length + (sealedChunks key.bytes header plaintext i).length) s.ciphertext
  staging : s.staging = ⟨o.staging.written ++ plaintext.take (i * chunkBytes), none⟩

variable {o : OpenState}

omit [Crypto] in
/-- **One round of opening a frame** gives a chunk of the plaintext. -/
theorem exists_openChunk [LawfulAes256Gcm] (hvalid : header.validate = .ok ())
    (ho : o.ciphertext.Unfailing)
    (hcontents : o.ciphertext.contents = frame key.bytes header plaintext)
    (hlen : plaintext.length = header.plaintextBytes.toNat) (hi : i < header.chunks) {s : OpenState}
    (h : OpenedUpTo key header plaintext o i s) :
    ∃ s', (openChunk header header.bytes key (UInt64.ofNat i)).Does s () s' ∧
      OpenedUpTo key header plaintext o (i + 1) s' := by
  have hbasic := validate_basic hvalid
  obtain ⟨tail, htail⟩ := sealedChunks_prefix key.bytes header plaintext hi
  have hrest : s.ciphertext.rest = sealedChunk key.bytes header plaintext i ++ tail := by
    rw [h.position.rest, hcontents, frame, htail, ← List.drop_drop, List.drop_left, List.drop_left]
  have hlength : (sealedChunk key.bytes header plaintext i).length =
      min (header.plaintextBytes.toNat - i * chunkBytes) chunkBytes + 16 := by
    rw [length_sealedChunk hbasic, length_chunk, hlen, Nat.min_comm]
  obtain ⟨s₁, hread, hmoved⟩ :=
    exists_read (h.position.unfailing ho) "framed_ciphertext_bytes" hrest
  have hstaging : s₁.staging = ⟨o.staging.written ++ plaintext.take (i * chunkBytes), none⟩ :=
    hmoved.staging.trans h.staging
  refine ⟨{ s₁ with staging := ⟨o.staging.written ++ plaintext.take (i * chunkBytes) ++
    chunk chunkBytes plaintext i, none⟩ }, ?_, ?_, ?_⟩
  · refine .check (chunkCiphertextLen_eq hvalid hi) ?_
    rw [← hlength]
    refine hread.bind (.check (deriveChunkNonce_eq hvalid hi) ?_)
    refine .check (okOr_eq_ok.mpr (LawfulAes256Gcm.decrypt_encrypt (encrypt_chunk hbasic i))) ?_
    refine Effect.does_zoom.mpr ⟨_, ?_, rfl⟩
    rw [hstaging]
    rfl
  · have hposition := h.position.trans hmoved.at_
    rw [h.position.2.2, Nat.add_assoc, ← List.length_append, ← sealedChunks_succ] at hposition
    exact hposition
  · rw [List.append_assoc, chunk, Nat.succ_mul, List.take_add]

/-- **A frame opens to its plaintext** under its identity and the key it was sealed with. -/
theorem exists_decrypt [LawfulAes256Gcm]
    (hcommitment : header.contentKeyCommitment = key.commitment) (ho : o.ciphertext.Unfailing)
    (hroom : o.staging.room = none)
    (hcontents : o.ciphertext.contents = frame key.bytes header plaintext)
    (hlen : plaintext.length = header.plaintextBytes.toNat)
    (hidentified : Identified expected header o.ciphertext.contents) :
    ∃ s', (decryptPayloadToStagingWriterWithContentKeyV1 expected key).Does o
        ⟨header.contentType, header.plaintextBytes⟩ s' ∧
      s'.staging.written = o.staging.written ++ plaintext := by
  have hvalid := hidentified.valid
  have hbasic := validate_basic hvalid
  obtain ⟨prefixLen, s₁, hverify⟩ := exists_verify ho hcontents hidentified
  obtain ⟨-, hprefixLen, position, hmoved₁⟩ := does_verify hverify
  obtain ⟨s₂, hseek₂, hmoved₂⟩ := exists_seekTo (hmoved₁.at_.unfailing ho) 0
  have hmoved₂ := hmoved₁.trans hmoved₂
  obtain ⟨s₃, hseek₃, hmoved₃⟩ := exists_seekTo (hmoved₂.at_.unfailing ho) prefixLen.toNat
  have hmoved₃ := hmoved₂.trans hmoved₃
  have hstart : OpenedUpTo key header plaintext o 0 s₃ := by
    refine ⟨?_, ?_⟩
    · rw [sealedChunks, List.range_zero, List.flatMap_nil, List.length_nil, Nat.add_zero,
        ← hprefixLen]
      exact hmoved₃.at_
    · rw [hmoved₃.staging, Nat.zero_mul, List.take_zero, List.append_nil, ← hroom]
  obtain ⟨s₄, hloop, hdone⟩ := Effect.exists_forM_range
    (fun i hi s hs => exists_openChunk hvalid ho hcontents hlen hi hs) hstart
  have hend : s₄.ciphertext.rest = [] := by
    rw [hdone.position.rest, hcontents, frame, ← List.length_append, List.drop_length]
  obtain ⟨reader, hread⟩ := Source.read_end (hdone.position.unfailing ho) hend 1
  have hnone : rejectTrailing "framed_ciphertext_bytes" s₄.ciphertext = (.ok (), reader) := by
    rw [rejectTrailing, hread]
  obtain ⟨count, hcount⟩ := exists_chunkCount (framedLength_lt hvalid)
  have hmatches : key.matchesCommitment header.contentKeyCommitment = true := by
    rw [ContentEncryptionKeyV1.matchesCommitment, hcommitment]
    exact beq_self_eq_true _
  refine ⟨{ s₄ with ciphertext := reader }, hverify.bind ?_, ?_⟩
  · refine Effect.does_check.mpr ⟨(), failIf_eq_ok.mpr (not_not.mpr hmatches), ?_⟩
    refine .check (encodedBytes_eq hbasic) (.check hcount (hseek₂.bind (hseek₃.bind ?_)))
    rw [chunkCount_eq_ok hcount]
    exact hloop.bind (.bind (does_onCiphertext.mpr ⟨reader, hnone, rfl⟩) rfl)
  · have hcover := header.le_chunks_mul
    rw [hdone.staging, List.take_of_length_le (by rw [hlen]; exact hcover)]

/-! ## 6. What was not sealed does not open -/

/-- **Nothing is staged before the stream is known to be the expected one.** -/
theorem identity_of_staging_ne
    (h : ((decryptPayloadToStagingWriterWithContentKeyV1 expected key).outcome o).2.staging ≠
      o.staging) :
    ∃ header, Identified expected header o.ciphertext.contents := by
  have hverify := stagesNothing_verify expected o
  rw [decryptPayloadToStagingWriterWithContentKeyV1, Effect.outcome_bind] at h
  rcases houtcome : (verifyFramedCiphertextIdentityV1 expected).outcome o with ⟨_ | result, s⟩
  · rw [houtcome] at h hverify
    exact absurd hverify h
  · obtain ⟨hidentified, -⟩ := does_verify houtcome
    exact ⟨result.1, hidentified⟩

/-- **No part of the stream is a forgery**: what the AEAD accepts of it under this key, for a header
that the stream starts with and an index of it, was sealed as a chunk of one of these payloads. -/
def Unforged (key : Bytes 32)
    (sealed : List (AuthenticatedChunkPayloadHeaderV1 × List UInt8)) (stream : List UInt8) : Prop :=
  ∀ header, header.validate = .ok () → header.framePrefix <+: stream → ∀ i < header.chunks,
    ∀ part, part <:+: stream → ∀ opened,
      Aes256Gcm.decrypt key (chunkNonce header.baseNonce (UInt64.ofNat i)) part
          (chunkAad header i) = some opened →
        ∃ payload ∈ sealed, ∃ j < payload.1.chunks,
          chunkNonce header.baseNonce (UInt64.ofNat i) =
              chunkNonce payload.1.baseNonce (UInt64.ofNat j) ∧
            chunkAad header i = chunkAad payload.1 j ∧ part = sealedChunk key payload.1 payload.2 j

/-- What a stream of which so many chunks were opened starts with, and what they came to: chunks of
`origin`, at their own places. -/
structure OpenedFrom (key : ContentEncryptionKeyV1) (header : AuthenticatedChunkPayloadHeaderV1)
    (origin : Nat → List UInt8) (o : OpenState) (i : Nat) (s : OpenState) : Prop where
  contents : o.ciphertext.contents = header.framePrefix ++
    (List.range i).flatMap (fun j => sealedChunk key.bytes header (origin j) j) ++ s.ciphertext.rest
  staging : s.staging.written = o.staging.written ++
    (List.range i).flatMap fun j => chunk chunkBytes (origin j) j

omit [Crypto] in
theorem OpenedFrom.congr {origin origin' : Nat → List UInt8}
    (h : OpenedFrom key header origin o i s)
    (horigin : ∀ j < i, origin j = origin' j) : OpenedFrom key header origin' o i s := by
  obtain ⟨hcontents, hstaging⟩ := h
  have hchunk : ∀ f : List UInt8 → Nat → List UInt8, (List.range i).flatMap (fun j => f (origin j) j) =
      (List.range i).flatMap fun j => f (origin' j) j := fun f =>
    List.flatMap_congr fun j hj => by rw [horigin j (List.mem_range.mp hj)]
  exact ⟨by rw [hcontents, hchunk], by rw [hstaging, hchunk]⟩

variable {sealed : List (AuthenticatedChunkPayloadHeaderV1 × List UInt8)}

omit [Crypto] in
/-- **A chunk that opens was sealed under the same header at the same index.** -/
theorem does_openChunk [LawfulAes256Gcm] {origin : Nat → List UInt8} {s s' : OpenState}
    (hvalid : header.validate = .ok ()) (hi : i < header.chunks)
    (hsealed : ∀ payload ∈ sealed, payload.1.validate = .ok ())
    (hunforged : Unforged key.bytes sealed o.ciphertext.contents)
    (h : OpenedFrom key header origin o i s)
    (hopen : (openChunk header header.bytes key (UInt64.ofNat i)).Does s () s') :
    ∃ plaintext, (header, plaintext) ∈ sealed ∧
      OpenedFrom key header (fun j => if j < i then origin j else plaintext) o (i + 1) s' := by
  obtain ⟨length, _, hopen⟩ := Effect.does_check.mp hopen
  obtain ⟨part, s₁, hread, hopen⟩ := Effect.does_bind.mp hopen
  obtain ⟨nonce, hnonce, hopen⟩ := Effect.does_check.mp hopen
  obtain ⟨opened, hopened, hwrite⟩ := Effect.does_check.mp hopen
  rw [deriveChunkNonce_eq hvalid hi] at hnonce
  cases hnonce
  rw [okOr_eq_ok] at hopened
  have hrest := rest_of_read hread
  have hstaging := (moved_of_read hread).2.2.staging
  have hpart : part <:+: o.ciphertext.contents := by
    rw [h.contents, hrest, ← List.append_assoc]
    exact ⟨_, _, rfl⟩
  have hstarts : header.framePrefix <+: o.ciphertext.contents := by
    rw [h.contents, List.append_assoc]
    exact List.prefix_append _ _
  obtain ⟨⟨header', plaintext⟩, hmem, j, hj, -, haad, hchunk⟩ :=
    hunforged header hvalid hstarts i hi part hpart opened hopened
  obtain ⟨rfl, rfl⟩ := chunkAad_inj hvalid (hsealed _ hmem) hi hj haad
  have hchunk : part = sealedChunk key.bytes header plaintext i := hchunk
  have hplain : opened = chunk chunkBytes plaintext i := by
    have hdecrypted := LawfulAes256Gcm.decrypt_encrypt
      (show Aes256Gcm.encrypt key.bytes _ _ _ = some (sealedChunk key.bytes header plaintext i) from
        encrypt_chunk (validate_basic hvalid) i)
    rw [← hchunk] at hdecrypted
    exact Option.some.inj (hopened.symm.trans hdecrypted)
  refine ⟨plaintext, hmem, ?_⟩
  have hagree : OpenedFrom key header (fun j => if j < i then origin j else plaintext) o i s :=
    h.congr fun j hj => (if_pos hj).symm
  obtain ⟨writer, hwritten, rfl⟩ := Effect.does_zoom.mp hwrite
  obtain ⟨hresult, rfl⟩ := Prod.ext_iff.mp hwritten
  have hall := Sink.written_of_writeAll (mapError_eq_ok.mp hresult)
  refine ⟨?_, ?_⟩
  · rw [hagree.contents, List.range_succ, List.flatMap_append, List.flatMap_singleton,
      if_neg (Nat.lt_irrefl i), hrest, hchunk]
    simp only [List.append_assoc]
  · rw [hall, hstaging, hagree.staging, List.range_succ, List.flatMap_append,
      List.flatMap_singleton, if_neg (Nat.lt_irrefl i), hplain, List.append_assoc]

omit [Crypto] [Aes256Gcm] in
theorem rest_of_rejectTrailing {reader : Source}
    (h : rejectTrailing field s.ciphertext = (.ok (), reader)) : s.ciphertext.rest = [] := by
  unfold rejectTrailing at h
  split at h
  · next hread => exact not_not.mp fun hrest => (Source.read_eq_ok hread).2.2.1 Nat.one_pos hrest rfl
  · cases h
  · cases h

variable {metadata : DecryptedPayloadMetadataV1}

/-- **What opens was sealed**, every chunk of it under the header of the stream and at its own
index, and there is nothing else in the stream. -/
theorem does_decrypt [LawfulAes256Gcm] (hsealed : ∀ payload ∈ sealed, payload.1.validate = .ok ())
    (hunforged : Unforged key.bytes sealed o.ciphertext.contents)
    (h : (decryptPayloadToStagingWriterWithContentKeyV1 expected key).Does o metadata s') :
    ∃ (header : AuthenticatedChunkPayloadHeaderV1) (origin : Nat → List UInt8),
      Identified expected header o.ciphertext.contents ∧
      metadata = ⟨header.contentType, header.plaintextBytes⟩ ∧
      (∀ j < header.chunks, (header, origin j) ∈ sealed) ∧
      o.ciphertext.contents = header.framePrefix ++
        (List.range header.chunks).flatMap (fun j => sealedChunk key.bytes header (origin j) j) ∧
      s'.staging.written = o.staging.written ++
        (List.range header.chunks).flatMap fun j => chunk chunkBytes (origin j) j := by
  obtain ⟨⟨header, prefixLen⟩, s₁, hverify, h⟩ := Effect.does_bind.mp h
  obtain ⟨⟨⟩, -, h⟩ := Effect.does_check.mp h
  obtain ⟨headerBytes, hheader, h⟩ := Effect.does_check.mp h
  obtain ⟨count, hcount, h⟩ := Effect.does_check.mp h
  obtain ⟨⟨⟩, s₂, hseek₂, h⟩ := Effect.does_bind.mp h
  obtain ⟨⟨⟩, s₃, hseek₃, h⟩ := Effect.does_bind.mp h
  obtain ⟨⟨⟩, s₄, hloop, h⟩ := Effect.does_bind.mp h
  obtain ⟨⟨⟩, s₅, htrailing, h⟩ := Effect.does_bind.mp h
  obtain ⟨rfl, rfl⟩ := Effect.does_pure.mp h
  obtain ⟨hidentified, hprefixLen, position, hmoved₁⟩ := does_verify hverify
  have hvalid := hidentified.valid
  rw [encodedBytes_eq (validate_basic hvalid)] at hheader
  cases hheader
  rw [chunkCount_eq_ok hcount] at hloop
  obtain ⟨body, hbody⟩ := hidentified.starts
  have hmoved₃ := (hmoved₁.trans (moved_of_seekTo hseek₂)).trans (moved_of_seekTo hseek₃)
  have hstart : OpenedFrom key header (fun _ => []) o 0 s₃ := by
    refine ⟨?_, ?_⟩
    · rw [hmoved₃.at_.rest, hprefixLen, ← hbody, List.drop_left, List.range_zero, List.flatMap_nil,
        List.append_nil]
    · rw [hmoved₃.staging, List.range_zero, List.flatMap_nil, List.append_nil]
  obtain ⟨origin, horigin, hopened⟩ := Effect.of_forM_range
    (I := fun i s => ∃ origin : Nat → List UInt8,
      (∀ j < i, (header, origin j) ∈ sealed) ∧ OpenedFrom key header origin o i s)
    (fun i hi s s' ⟨origin, horigin, hs⟩ hround => by
      obtain ⟨plaintext, hmem, hs'⟩ := does_openChunk hvalid hi hsealed hunforged hs hround
      refine ⟨fun j => if j < i then origin j else plaintext, fun j hj => ?_, hs'⟩
      by_cases hlt : j < i
      · simp only [if_pos hlt]
        exact horigin j hlt
      · simp only [if_neg hlt]
        exact hmem)
    ⟨fun _ => [], fun j hj => absurd hj (Nat.not_lt_zero j), hstart⟩ hloop
  obtain ⟨reader, hreader, rfl⟩ := does_onCiphertext.mp htrailing
  have hcontents := hopened.contents
  rw [rest_of_rejectTrailing hreader, List.append_nil] at hcontents
  exact ⟨header, origin, hidentified, rfl, horigin, hcontents, hopened.staging⟩

/-- **When a header was used for one plaintext only**, what opens is its frame, to its plaintext. -/
theorem eq_of_decrypt [LawfulAes256Gcm]
    (hsealed : ∀ payload ∈ sealed, payload.1.validate = .ok () ∧ payload.2.length =
      payload.1.plaintextBytes.toNat)
    (honce : ∀ payload ∈ sealed, ∀ other ∈ sealed, payload.1 = other.1 → payload = other)
    (hunforged : Unforged key.bytes sealed o.ciphertext.contents)
    (h : (decryptPayloadToStagingWriterWithContentKeyV1 expected key).Does o metadata s') :
    ∃ payload ∈ sealed, o.ciphertext.contents = frame key.bytes payload.1 payload.2 ∧
      metadata = ⟨payload.1.contentType, payload.1.plaintextBytes⟩ ∧
        s'.staging.written = o.staging.written ++ payload.2 := by
  obtain ⟨header, origin, hidentified, hmetadata, horigin, hcontents, hstaging⟩ :=
    does_decrypt (fun payload hpayload => (hsealed payload hpayload).1) hunforged h
  have hfirst := horigin 0 (chunks_pos (validate_basic hidentified.valid))
  have hsame : ∀ j < header.chunks, origin j = origin 0 := fun j hj =>
    (Prod.mk.inj (honce _ (horigin j hj) _ hfirst rfl)).2
  have hchunk : ∀ f : List UInt8 → Nat → List UInt8,
      (List.range header.chunks).flatMap (fun j => f (origin j) j) =
        (List.range header.chunks).flatMap (f (origin 0)) := fun f =>
    List.flatMap_congr fun j hj => by rw [hsame j (List.mem_range.mp hj)]
  have hcover : (origin 0).length ≤ header.chunks * chunkBytes := by
    rw [(hsealed _ hfirst).2]
    exact header.le_chunks_mul
  refine ⟨_, hfirst, ?_, hmetadata, ?_⟩
  · rw [hcontents, hchunk]
    rfl
  · rw [hstaging, hchunk, flatMap_chunk, List.take_of_length_le hcover]

/-! ## 7. Sealing and opening -/

/-- **Chunked payloads.**  Sealing succeeds for every header that passes its check, writes the
announced number of bytes, and what it wrote opens under the identity it returned to the plaintext
and the content type.  Nothing is staged before the whole stream has the expected identity and the
announced length; the pairs of nonce and associated data are distinct, across headers and indices;
and a stream without forgeries opens only chunk by chunk as it was sealed, so that one whose header
was used once opens only if it is the frame that was written. -/
theorem chunked_payload [LawfulAes256Gcm] [Curves] [XWing] [LawfulXWing] [Gf256] [LawfulGf256]
    (committee : ValidatedCustodyCommitteeV1) (key : ContentEncryptionKeyV1) :
    (∀ (header : AuthenticatedChunkPayloadHeaderV1) (plaintext : Source) (before : Sink)
        (hpkeRng shamirRng : Rng), header.contentKeyCommitment = key.commitment →
      header.validateBasicFields = .ok () →
      header.framedLength ≤ MAX_ENCRYPTED_CONTENT_BYTES.toNat →
      plaintext.Unfailing → plaintext.rest.length = header.plaintextBytes.toNat →
      before.room = none → ∃ metadata s',
        sealPayloadToStagingWriterV1 header.contentType header.plaintextBytes plaintext before
            committee (some key.bytes) (some header.baseNonce) (some hpkeRng) (some shamirRng) =
          (.ok metadata, s') ∧
        s'.staging.written = before.written ++ frame key.bytes header plaintext.rest ∧
        header.expectedFramedBytes = .ok metadata.encryptedContentIdentity.ciphertextBytes ∧
        (frame key.bytes header plaintext.rest).length =
          metadata.encryptedContentIdentity.ciphertextBytes.toNat ∧
        ∀ o : OpenState, o.ciphertext.contents = frame key.bytes header plaintext.rest →
          o.ciphertext.Unfailing → o.staging.room = none → ∃ o',
            (decryptPayloadToStagingWriterWithContentKeyV1 metadata.encryptedContentIdentity
              key).outcome o = (.ok ⟨header.contentType, header.plaintextBytes⟩, o') ∧
            o'.staging.written = o.staging.written ++ plaintext.rest) ∧
    (∀ (expected : EncryptedContentIdentityV1) (o : OpenState),
      ((decryptPayloadToStagingWriterWithContentKeyV1 expected key).outcome o).2.staging ≠
        o.staging → ∃ header, Identified expected header o.ciphertext.contents) ∧
    (∀ (header header' : AuthenticatedChunkPayloadHeaderV1) (i j : Nat),
      header.validate = .ok () → header'.validate = .ok () → i < header.chunks →
        j < header'.chunks → chunkAad header i = chunkAad header' j ∨
          (header = header' ∧ chunkNonce header.baseNonce (UInt64.ofNat i) =
            chunkNonce header'.baseNonce (UInt64.ofNat j)) → header = header' ∧ i = j) ∧
    ∀ (expected : EncryptedContentIdentityV1) (o o' : OpenState)
        (metadata : DecryptedPayloadMetadataV1)
        (sealed : List (AuthenticatedChunkPayloadHeaderV1 × List UInt8)),
      (∀ payload ∈ sealed, payload.1.validate = .ok () ∧
        payload.2.length = payload.1.plaintextBytes.toNat) →
      Unforged key.bytes sealed o.ciphertext.contents →
      (decryptPayloadToStagingWriterWithContentKeyV1 expected key).outcome o =
        (.ok metadata, o') →
      (∃ (header : AuthenticatedChunkPayloadHeaderV1) (origin : Nat → List UInt8),
        Identified expected header o.ciphertext.contents ∧
        (∀ j < header.chunks, (header, origin j) ∈ sealed) ∧
        o.ciphertext.contents = header.framePrefix ++ (List.range header.chunks).flatMap
          (fun j => sealedChunk key.bytes header (origin j) j) ∧
        o'.staging.written = o.staging.written ++
          (List.range header.chunks).flatMap fun j => chunk chunkBytes (origin j) j) ∧
      ((∀ payload ∈ sealed, ∀ other ∈ sealed, payload.1 = other.1 → payload = other) →
        ∃ payload ∈ sealed, o.ciphertext.contents = frame key.bytes payload.1 payload.2 ∧
          metadata = ⟨payload.1.contentType, payload.1.plaintextBytes⟩ ∧
            o'.staging.written = o.staging.written ++ payload.2) := by
  refine ⟨?_, fun expected o h => identity_of_staging_ne h, ?_, ?_⟩
  · intro header plaintext before hpkeRng shamirRng hcommitment hbasic hshort hreader hlen hroom
    have hvalid := validate_eq_ok.mpr ⟨hbasic, hshort⟩
    have hsealable : AuthenticatedChunkPayloadHeaderV1.validate ⟨header.contentType,
        header.plaintextBytes, header.baseNonce, key.commitment⟩ = .ok () := by
      rw [← hcommitment]
      exact hvalid
    obtain ⟨metadata, s', hseal, hheader, hwritten, hidentity, hannounced⟩ :=
      exists_seal committee hpkeRng shamirRng hsealable hreader hlen hroom
    rw [← hcommitment] at hheader
    rw [hheader] at hwritten hidentity hannounced
    obtain ⟨⟨⟩, _, hbuilt⟩ := bind_eq_ok.mp hidentity
    have hframed : (frame key.bytes header plaintext.rest).length =
        metadata.encryptedContentIdentity.ciphertextBytes.toNat := by
      rw [length_frame hbasic hlen, ← expectedFramedBytes_eq_ok hannounced]
    refine ⟨metadata, s', hseal, hwritten, hannounced, hframed, fun o hcontents ho hwriter => ?_⟩
    refine exists_decrypt hcommitment ho hwriter hcontents hlen ⟨hvalid, ?_, ?_, ?_, hannounced⟩
    · rw [hcontents]
      exact List.prefix_append _ _
    · rw [hcontents, ← Except.ok.inj hbuilt]
    · rw [hcontents]
      exact hframed
  · rintro header header' i j hvalid hvalid' hi hj (haad | ⟨rfl, hnonce⟩)
    · exact chunkAad_inj hvalid hvalid' hi hj haad
    · exact ⟨rfl, chunkNonce_inj hvalid hi hj hnonce⟩
  · intro expected o o' metadata sealed hsealed hunforged h
    obtain ⟨header, origin, hidentified, -, horigin, hcontents, hstaging⟩ :=
      does_decrypt (fun payload hpayload => (hsealed payload hpayload).1) hunforged h
    exact ⟨⟨header, origin, hidentified, horigin, hcontents, hstaging⟩,
      fun honce => eq_of_decrypt hsealed honce hunforged h⟩

end

/-! ## 8. A payload to evaluate the model with -/

/-- A stream starts with one header only. -/
theorem framePrefix_inj {header header' : AuthenticatedChunkPayloadHeaderV1} {stream : List UInt8}
    (hvalid : header.validate = .ok ()) (hvalid' : header'.validate = .ok ())
    (h : header.framePrefix <+: stream) (h' : header'.framePrefix <+: stream) :
    header = header' := by
  obtain ⟨tail, rfl⟩ := h
  obtain ⟨tail', htail'⟩ := h'
  rw [framePrefix, framePrefix, List.append_assoc, List.append_assoc, List.append_assoc,
    List.append_assoc] at htail'
  obtain ⟨hlen, hrest⟩ := List.append_inj (List.append_cancel_left htail')
    (by rw [beBytes_length, beBytes_length])
  have hsame := congrArg ofBeBytes hlen
  have hshort := encodedLen_lt (validate_basic hvalid)
  have hshort' := encodedLen_lt (validate_basic hvalid')
  rw [ofBeBytes_beBytes (by rw [length_bytes]; omega),
    ofBeBytes_beBytes (by rw [length_bytes]; omega)] at hsame
  exact bytes_inj hvalid hvalid' (List.append_inj_left hrest hsame).symm

namespace PayloadSample

section

attribute [local instance] acceptingCurves tailEchoCrypto taggingGcm taggingGcm_lawful zeroXWing
  zeroXWing_lawful copyingGf256 copyingGf256_lawful

def key : ContentEncryptionKeyV1 := ⟨Bytes.zero 32⟩

def header : AuthenticatedChunkPayloadHeaderV1 := ⟨"a", 1, Bytes.zero 12, Bytes.zero 32⟩

/-- A reader that hands over one byte at a time. -/
def reader (contents : List UInt8) : Source := ⟨contents, 0, fun _ => .more 0, 0⟩

def writer : Sink := ⟨[], none⟩

def rng : Rng := ⟨fun _ => 0, 0⟩

theorem commitment_eq : header.contentKeyCommitment = key.commitment := by decide

theorem header_valid : header.validate = .ok () := by decide

theorem sealedChunk_eq : sealedChunk key.bytes header [7] 0 = lengthTag 1 ++ [7] := by
  have hchunk : Aes256Gcm.encrypt key.bytes _ (chunk chunkBytes [7] 0) (chunkAad header 0) =
      some (sealedChunk key.bytes header [7] 0) := encrypt_chunk (validate_basic header_valid) 0
  have hplain : chunk chunkBytes [(7 : UInt8)] 0 = [7] := by
    rw [chunk, Nat.zero_mul, List.drop_zero, chunkBytes, List.take_of_length_le (by simp)]
  rw [hplain] at hchunk
  obtain ⟨-, hsealed⟩ := Option.ite_none_right_eq_some.mp hchunk
  exact (Option.some.inj hsealed).symm

theorem frame_eq : frame key.bytes header [7] = header.framePrefix ++ (lengthTag 1 ++ [7]) := by
  have hchunks : header.chunks = 1 := by decide
  rw [frame, hchunks, sealedChunks, List.range_one, List.flatMap_singleton, sealedChunk_eq]

/-- The tag stands in one place of the frame only. -/
theorem tag_at : ∀ k < 160, ((header.framePrefix ++ (lengthTag 1 ++ [7])).drop k).take 8 =
    List.replicate 8 0xff → k = header.framePrefix.length := by decide +kernel

theorem length_sample : (header.framePrefix ++ (lengthTag 1 ++ [7])).length ≤ 160 := by
  rw [List.length_append, length_framePrefix, List.length_append, length_lengthTag]
  decide

/-- **No part of the sample frame opens but its chunk.** -/
theorem unforged : Unforged key.bytes [(header, [7])] (frame key.bytes header [7]) := by
  intro header' hvalid hstarts i hi part hpart opened hopened
  obtain rfl : header' = header := framePrefix_inj hvalid header_valid hstarts
    (by rw [frame]; exact List.prefix_append _ _)
  have hchunks : header.chunks = 1 := by decide
  obtain rfl : i = 0 := by omega
  refine ⟨_, List.mem_singleton_self _, 0, by omega, rfl, rfl, ?_⟩
  obtain ⟨htag, -⟩ := Option.ite_none_right_eq_some.mp hopened
  obtain ⟨front, back, hframe⟩ := hpart
  rw [frame_eq, List.append_assoc] at hframe
  have hlong : 16 ≤ part.length := by
    have hlen := congrArg List.length htag
    rw [List.length_take, length_lengthTag] at hlen
    omega
  have hrest : (header.framePrefix ++ (lengthTag 1 ++ [7])).drop front.length = part ++ back := by
    rw [← hframe, List.drop_left]
  have hfront : front.length = header.framePrefix.length := by
    refine tag_at _ ?_ ?_
    · have hlen := congrArg List.length hframe
      have hshort := length_sample
      rw [← hlen, List.length_append, List.length_append] at hshort
      omega
    · have htake : part.take 8 = (part.take 16).take 8 := by rw [List.take_take]; rfl
      rw [hrest, List.take_append_of_le_length (by omega), htake, htag, lengthTag,
        List.take_left' List.length_replicate]
  rw [hfront, List.drop_left] at hrest
  have hsixteen := congrArg (List.take 16) hrest
  rw [List.take_left' (length_lengthTag 1), List.take_append_of_le_length hlong, htag] at hsixteen
  have hone := congrArg ofBeBytes (List.append_cancel_left hsixteen)
  have hsmall : part.length ≤ 17 := by
    have hlen := congrArg List.length hrest
    rw [List.length_append, List.length_append, length_lengthTag, List.length_singleton] at hlen
    omega
  rw [ofBeBytes_beBytes (by decide), ofBeBytes_beBytes (by omega)] at hone
  have hback : back = [] := by
    have hlen := congrArg List.length hrest
    rw [List.length_append, List.length_append, length_lengthTag, List.length_singleton] at hlen
    exact List.eq_nil_of_length_eq_zero (by omega)
  rw [hback, List.append_nil] at hrest
  rw [← hrest, sealedChunk_eq]

theorem chunked_payload_sample : ∃ metadata s' o', sealPayloadToStagingWriterV1 "a" 1
      (reader [7]) writer sampleCommittee (some key.bytes) (some (Bytes.zero 12)) (some rng)
        (some rng) = (.ok metadata, s') ∧
    s'.staging.written = frame key.bytes header [7] ∧
    (decryptPayloadToStagingWriterWithContentKeyV1 metadata.encryptedContentIdentity key).outcome
      ⟨reader (frame key.bytes header [7]), writer⟩ = (.ok ⟨"a", 1⟩, o') ∧
    o'.staging.written = [7] ∧
    (∃ found, Identified metadata.encryptedContentIdentity found (frame key.bytes header [7])) ∧
    chunkAad header 0 ≠ chunkAad { header with contentType := "b" } 0 ∧
    ∃ payload ∈ [(header, [7])], frame key.bytes header [7] = frame key.bytes payload.1 payload.2 := by
  obtain ⟨hseal, hidentity, hbound, hopen⟩ := chunked_payload sampleCommittee key
  have hreader : ∀ contents, (reader contents).Unfailing := fun _ _ h => by cases h
  obtain ⟨metadata, s', hsealed, hwritten, -, -, hback⟩ := hseal header (reader [7]) writer rng rng
    commitment_eq (by decide) (by decide) (hreader _) (by decide) rfl
  obtain ⟨o', hdecrypt, hplain⟩ :=
    hback ⟨reader (frame key.bytes header [7]), writer⟩ rfl (hreader _) rfl
  have hstaged : o'.staging ≠ writer := fun h => by
    rw [h] at hplain
    cases hplain
  have hidentified := hidentity metadata.encryptedContentIdentity
    ⟨reader (frame key.bytes header [7]), writer⟩ (by rw [hdecrypt]; exact hstaged)
  have hother : chunkAad header 0 ≠ chunkAad { header with contentType := "b" } 0 := fun h =>
    absurd (hbound header { header with contentType := "b" } 0 0 header_valid (by decide)
      (by decide) (by decide) (.inl h)).1 (by decide)
  obtain ⟨-, honce⟩ := hopen _ _ o' _ [(header, [7])]
    (List.forall_mem_singleton.mpr ⟨header_valid, by decide⟩) unforged hdecrypt
  obtain ⟨payload, hpayload, hframed, -⟩ := honce fun payload hpayload other hother _ =>
    (List.mem_singleton.mp hpayload).trans (List.mem_singleton.mp hother).symm
  exact ⟨metadata, s', o', hsealed, hwritten, hdecrypt, hplain, hidentified,
    hother, payload, hpayload, hframed⟩

end

end PayloadSample

end ElastosRuntime.Custody
