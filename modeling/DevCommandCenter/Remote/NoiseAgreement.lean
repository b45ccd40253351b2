import DevCommandCenter.Remote.Noise

/-! Both sides of a handshake keep the same key, hash and cipher, token by token. -/

namespace DevCommandCenter.Noise

open Library

/-- The documented behaviour of the libraries: Diffie-Hellman commutes, decryption inverts
encryption, and the sizes. -/
structure Primitives.Lawful (prim : Primitives) : Prop where
  publicKeyLength : ∀ key : Bytes, key.length = dhLen → (prim.getPublicKey key).length = dhLen
  dhComm : ∀ a b : Bytes, a.length = dhLen → b.length = dhLen →
    prim.getSharedSecret a (prim.getPublicKey b) = prim.getSharedSecret b (prim.getPublicKey a)
  decryptEncrypt : ∀ key nonce ad plaintext,
    prim.decrypt key nonce ad (prim.encrypt key nonce ad plaintext) = some plaintext
  encryptLength : ∀ key nonce ad plaintext,
    (prim.encrypt key nonce ad plaintext).length = plaintext.length + tagLen

variable {prim : Primitives}

def KeyPair.Valid (prim : Primitives) (pair : KeyPair) : Prop :=
  keyPairFromPrivate prim pair.privateKey = .ok pair

lemma KeyPair.Valid.eq {pair : KeyPair} (h : pair.Valid prim) :
    pair.privateKey.length = dhLen ∧ pair.publicKey = prim.getPublicKey pair.privateKey := by
  unfold KeyPair.Valid keyPairFromPrivate at h
  split at h
  · cases h
  · next hlength =>
    exact ⟨not_not.mp hlength, congrArg KeyPair.publicKey (Except.ok.inj h).symm⟩

lemma Primitives.Lawful.dh_eq (hprim : prim.Lawful) {a b : KeyPair} (ha : a.Valid prim)
    (hb : b.Valid prim) : dh prim a b.publicKey = dh prim b a.publicKey := by
  rw [dh, dh, ha.eq.2, hb.eq.2]
  exact hprim.dhComm _ _ ha.eq.1 hb.eq.1

lemma Primitives.Lawful.publicKey_length (hprim : prim.Lawful) {a : KeyPair} (ha : a.Valid prim) :
    a.publicKey.length = dhLen := by
  rw [ha.eq.2]
  exact hprim.publicKeyLength _ ha.eq.1

section Ciphers

variable {cipher cipher' : CipherState} {ad plaintext ciphertext : Bytes}

lemma decryptWithAd_encrypted (hprim : prim.Lawful)
    (h : CipherState.encryptWithAd prim ad plaintext cipher = (.ok ciphertext, cipher')) :
    CipherState.decryptWithAd prim ad ciphertext cipher = (.ok plaintext, cipher') := by
  unfold CipherState.encryptWithAd at h
  unfold CipherState.decryptWithAd
  rw [Call.read_bind_ok_iff] at h ⊢
  cases hkey : cipher.key with
  | none =>
      rw [hkey] at h
      cases h
      rfl
  | some key =>
      rw [hkey] at h
      dsimp only at h ⊢
      split at h
      · cases h
      · next hnonce =>
        cases h
        rw [if_neg hnonce, hprim.decryptEncrypt]
        rfl

lemma encryptWithAd_ok (prim : Primitives) (ad plaintext : Bytes)
    (hnonce : cipher.nonce < maxSafeInteger) : ∃ ciphertext cipher',
      CipherState.encryptWithAd prim ad plaintext cipher = (.ok ciphertext, cipher') ∧
      cipher'.nonce ≤ cipher.nonce + 1 := by
  unfold CipherState.encryptWithAd
  cases hkey : cipher.key with
  | none =>
      refine ⟨plaintext, cipher, Call.read_bind_ok_iff.mpr ?_, Nat.le_succ _⟩
      rw [hkey]
      rfl
  | some key =>
      refine ⟨prim.encrypt key (nonceBytes cipher.nonce) ad plaintext,
        { cipher with nonce := cipher.nonce + 1 }, Call.read_bind_ok_iff.mpr ?_, le_rfl⟩
      rw [hkey]
      dsimp only
      rw [if_neg (not_le.mpr hnonce), ← hkey]
      rfl

lemma encryptWithAd_length (hprim : prim.Lawful)
    (h : CipherState.encryptWithAd prim ad plaintext cipher = (.ok ciphertext, cipher')) :
    ciphertext.length = if cipher.hasKey then plaintext.length + tagLen else plaintext.length := by
  unfold CipherState.encryptWithAd at h
  rw [Call.read_bind_ok_iff] at h
  unfold CipherState.hasKey
  cases hkey : cipher.key with
  | none =>
      rw [hkey] at h
      cases h
      rfl
  | some key =>
      rw [hkey] at h
      dsimp only at h
      split at h
      · cases h
      · cases h
        exact hprim.encryptLength _ _ _ _

end Ciphers

section Symmetric

variable {state state' : SymmetricState} {plaintext ciphertext : Bytes}

lemma onCipher_ok {α : Type} {call : Call CipherState String α} {a : α} {cipher' : CipherState}
    (h : call state.cipher = (.ok a, cipher')) :
    SymmetricState.onCipher call state = (.ok a, { state with cipher := cipher' }) := by
  simp only [SymmetricState.onCipher, h]

lemma encryptAndHash_ok (hprim : prim.Lawful) (hnonce : state.cipher.nonce < maxSafeInteger)
    (plaintext : Bytes) : ∃ ciphertext state',
      SymmetricState.encryptAndHash prim plaintext state = (.ok ciphertext, state') ∧
      SymmetricState.decryptAndHash prim ciphertext state = (.ok plaintext, state') ∧
      state'.cipher.nonce ≤ state.cipher.nonce + 1 ∧
      ciphertext.length =
        if state.cipher.hasKey then plaintext.length + tagLen else plaintext.length := by
  obtain ⟨ciphertext, cipher', hencrypts, hnext⟩ :=
    encryptWithAd_ok prim state.hash plaintext hnonce
  refine ⟨ciphertext, SymmetricState.mixHash prim ciphertext { state with cipher := cipher' },
    ?_, ?_, hnext, encryptWithAd_length hprim hencrypts⟩
  · unfold SymmetricState.encryptAndHash
    rw [Call.read_bind_ok_iff, Call.bind_ok_iff]
    exact ⟨ciphertext, _, onCipher_ok hencrypts, rfl⟩
  · unfold SymmetricState.decryptAndHash
    rw [Call.read_bind_ok_iff, Call.bind_ok_iff]
    exact ⟨plaintext, _, onCipher_ok (decryptWithAd_encrypted hprim hencrypts), rfl⟩

end Symmetric

section Tokens

structure Known where
  writerE : Bool
  readerE : Bool
  writerS : Bool
  readerS : Bool
  psk : Bool
  deriving DecidableEq

def Known.after (initiator : Bool) (known : Known) : Token → Option Known
  | .e => some { known with writerE := true }
  | .s => some { known with writerS := true }
  | .ee => if known.writerE && known.readerE then some known else none
  | .es =>
      if (if initiator then known.writerE && known.readerS else known.readerE && known.writerS) then
        some known
      else none
  | .se =>
      if (if initiator then known.readerE && known.writerS else known.writerE && known.readerS) then
        some known
      else none
  | .ss => if known.writerS && known.readerS then some known else none
  | .psk => if known.psk then some known else none

def Known.afterAll (initiator : Bool) (known : Known) : List Token → Option Known
  | [] => some known
  | token :: rest => (known.after initiator token).bind fun next => next.afterAll initiator rest

structure Mirror (prim : Primitives) (known : Known) (writer reader : HandshakeState) : Prop where
  symmetric : reader.symmetric = writer.symmetric
  messages : reader.messages = writer.messages
  index : reader.index = writer.index
  roles : reader.initiator = !writer.initiator
  isPsk : reader.isPsk = writer.isPsk
  psk : reader.psk = writer.psk
  writerStatic : writer.s.Valid prim
  readerStatic : reader.s.Valid prim
  writerE : ∀ e ∈ writer.e, e.Valid prim
  readerE : ∀ e ∈ reader.e, e.Valid prim
  writerFixed : ∀ e ∈ writer.fixedEphemeral, e.Valid prim
  readerFixed : ∀ e ∈ reader.fixedEphemeral, e.Valid prim
  readerRe : reader.re = writer.e.map KeyPair.publicKey
  writerRe : writer.re = reader.e.map KeyPair.publicKey
  readerRs : ∀ key ∈ reader.rs, key = writer.s.publicKey
  writerRs : ∀ key ∈ writer.rs, key = reader.s.publicKey
  knownWriterE : known.writerE = true → writer.e.isSome = true
  knownReaderE : known.readerE = true → reader.e.isSome = true
  knownWriterS : known.writerS = true → reader.rs.isSome = true
  knownReaderS : known.readerS = true → writer.rs.isSome = true
  knownPsk : known.psk = true → writer.psk.isSome = true

def Known.turned (known : Known) : Known where
  writerE := known.readerE
  readerE := known.writerE
  writerS := known.readerS
  readerS := known.writerS
  psk := known.psk

variable {known known' : Known} {writer reader : HandshakeState} {token : Token}

lemma onSymmetric_ok {α : Type} {state : HandshakeState} {call : Call SymmetricState String α}
    {a : α} {symmetric : SymmetricState} (h : call state.symmetric = (.ok a, symmetric)) :
    HandshakeState.onSymmetric call state = (.ok a, { state with symmetric := symmetric }) := by
  simp only [HandshakeState.onSymmetric, h]

lemma Mirror.withSymmetric (h : Mirror prim known writer reader) (symmetric : SymmetricState) :
    Mirror prim known { writer with symmetric := symmetric }
      { reader with symmetric := symmetric } :=
  { h with symmetric := rfl }

lemma Mirror.dhSecret (hprim : prim.Lawful) (h : Mirror prim known writer reader)
    (hafter : known.after writer.initiator token = some known') :
    ∃ secret, HandshakeState.dhSecret prim writer token = .ok secret ∧
      HandshakeState.dhSecret prim reader token = .ok secret := by
  have hwriterE : known.writerE = true → ∃ e, writer.e = some e ∧ e.Valid prim ∧
      reader.re = some e.publicKey := by
    intro hknown
    obtain ⟨e, he⟩ := Option.isSome_iff_exists.mp (h.knownWriterE hknown)
    exact ⟨e, he, h.writerE e he, by rw [h.readerRe, he]; rfl⟩
  have hreaderE : known.readerE = true → ∃ e, reader.e = some e ∧ e.Valid prim ∧
      writer.re = some e.publicKey := by
    intro hknown
    obtain ⟨e, he⟩ := Option.isSome_iff_exists.mp (h.knownReaderE hknown)
    exact ⟨e, he, h.readerE e he, by rw [h.writerRe, he]; rfl⟩
  have hwriterS : known.writerS = true → reader.rs = some writer.s.publicKey := by
    intro hknown
    obtain ⟨key, hkey⟩ := Option.isSome_iff_exists.mp (h.knownWriterS hknown)
    rw [hkey, h.readerRs key hkey]
  have hreaderS : known.readerS = true → writer.rs = some reader.s.publicKey := by
    intro hknown
    obtain ⟨key, hkey⟩ := Option.isSome_iff_exists.mp (h.knownReaderS hknown)
    rw [hkey, h.writerRs key hkey]
  have hroles := h.roles
  cases token with
  | e => exact ⟨[], rfl, rfl⟩
  | s => exact ⟨[], rfl, rfl⟩
  | psk => exact ⟨[], rfl, rfl⟩
  | ee =>
      simp only [Known.after, Option.ite_none_right_eq_some, Bool.and_eq_true] at hafter
      obtain ⟨a, ha, haValid, hre⟩ := hwriterE hafter.1.1
      obtain ⟨b, hb, hbValid, hre'⟩ := hreaderE hafter.1.2
      refine ⟨dh prim a b.publicKey, ?_, ?_⟩
      · simp only [HandshakeState.dhSecret, ha, hre', HandshakeState.need]
        rfl
      · simp only [HandshakeState.dhSecret, hb, hre, HandshakeState.need, hprim.dh_eq haValid hbValid]
        rfl
  | ss =>
      simp only [Known.after, Option.ite_none_right_eq_some, Bool.and_eq_true] at hafter
      refine ⟨dh prim writer.s reader.s.publicKey, ?_, ?_⟩
      · simp only [HandshakeState.dhSecret, hreaderS hafter.1.2, HandshakeState.need]
        rfl
      · simp only [HandshakeState.dhSecret, hwriterS hafter.1.1, HandshakeState.need,
          hprim.dh_eq h.writerStatic h.readerStatic]
        rfl
  | es =>
      cases hinitiator : writer.initiator with
      | true =>
          simp only [Known.after, hinitiator, if_true, Option.ite_none_right_eq_some,
            Bool.and_eq_true] at hafter
          obtain ⟨a, ha, haValid, hre⟩ := hwriterE hafter.1.1
          refine ⟨dh prim a reader.s.publicKey, ?_, ?_⟩
          · simp only [HandshakeState.dhSecret, hinitiator, if_true, ha, hreaderS hafter.1.2,
              HandshakeState.need]
            rfl
          · simp only [HandshakeState.dhSecret, hroles, hinitiator, Bool.not_true, Bool.false_eq_true,
              if_false, hre, HandshakeState.need, hprim.dh_eq haValid h.readerStatic]
            rfl
      | false =>
          simp only [Known.after, hinitiator, Bool.false_eq_true, if_false,
            Option.ite_none_right_eq_some, Bool.and_eq_true] at hafter
          obtain ⟨b, hb, hbValid, hre⟩ := hreaderE hafter.1.1
          refine ⟨dh prim writer.s b.publicKey, ?_, ?_⟩
          · simp only [HandshakeState.dhSecret, hinitiator, Bool.false_eq_true, if_false, hre,
              HandshakeState.need]
            rfl
          · simp only [HandshakeState.dhSecret, hroles, hinitiator, Bool.not_false, if_true, hb,
              hwriterS hafter.1.2, HandshakeState.need, hprim.dh_eq h.writerStatic hbValid]
            rfl
  | se =>
      cases hinitiator : writer.initiator with
      | true =>
          simp only [Known.after, hinitiator, if_true, Option.ite_none_right_eq_some,
            Bool.and_eq_true] at hafter
          obtain ⟨b, hb, hbValid, hre⟩ := hreaderE hafter.1.1
          refine ⟨dh prim writer.s b.publicKey, ?_, ?_⟩
          · simp only [HandshakeState.dhSecret, hinitiator, if_true, hre, HandshakeState.need]
            rfl
          · simp only [HandshakeState.dhSecret, hroles, hinitiator, Bool.not_true, Bool.false_eq_true,
              if_false, hb, hwriterS hafter.1.2, HandshakeState.need,
              hprim.dh_eq h.writerStatic hbValid]
            rfl
      | false =>
          simp only [Known.after, hinitiator, Bool.false_eq_true, if_false,
            Option.ite_none_right_eq_some, Bool.and_eq_true] at hafter
          obtain ⟨a, ha, haValid, hre⟩ := hwriterE hafter.1.1
          refine ⟨dh prim a reader.s.publicKey, ?_, ?_⟩
          · simp only [HandshakeState.dhSecret, hinitiator, Bool.false_eq_true, if_false, ha,
              hreaderS hafter.1.2, HandshakeState.need]
            rfl
          · simp only [HandshakeState.dhSecret, hroles, hinitiator, Bool.not_false, if_true, hre,
              HandshakeState.need, hprim.dh_eq haValid h.readerStatic]
            rfl

structure SameParty (state state' : HandshakeState) : Prop where
  s : state'.s = state.s
  initiator : state'.initiator = state.initiator
  messages : state'.messages = state.messages
  index : state'.index = state.index

lemma SameParty.trans {a b c : HandshakeState} (h : SameParty a b) (h' : SameParty b c) :
    SameParty a c :=
  ⟨h'.s.trans h.s, h'.initiator.trans h.initiator, h'.messages.trans h.messages,
    h'.index.trans h.index⟩

def partLength : Token → ℕ
  | .e => dhLen
  | .s => dhLen + tagLen
  | _ => 0

lemma take_append {part rest : Bytes} {n : ℕ} (h : part.length = n) :
    HandshakeState.take n (part ++ rest) = .ok (part, rest) := by
  subst h
  simp [HandshakeState.take]

def Passes (prim : Primitives) (secret : Bytes) (known' : Known) (writer reader : HandshakeState)
    (token : Token) (rest : Bytes) : Prop :=
  ∃ part writer' reader',
    HandshakeState.writeToken prim secret token writer = (.ok part, writer') ∧
    HandshakeState.readToken prim (part ++ rest) token reader = (.ok rest, reader') ∧
    Mirror prim known' writer' reader' ∧
    writer'.symmetric.cipher.nonce ≤ writer.symmetric.cipher.nonce + 1 ∧
    part.length ≤ partLength token ∧ SameParty writer writer' ∧ SameParty reader reader'

lemma mixDh_ok {state : HandshakeState} {secret : Bytes}
    (h : HandshakeState.dhSecret prim state token = .ok secret) :
    HandshakeState.mixDh prim token state = (.ok (), { state with
      symmetric := SymmetricState.mixKey prim secret state.symmetric }) := by
  unfold HandshakeState.mixDh
  rw [Call.read_bind_ok_iff]
  exact Call.liftExcept_bind_ok_iff.mpr ⟨secret, h, rfl⟩

lemma Mirror.passes_dh (hprim : prim.Lawful) (h : Mirror prim known writer reader)
    (hafter : known.after writer.initiator token = some known') (hkept : known' = known)
    (hwrite : ∀ secret, HandshakeState.writeToken prim secret token = do
      HandshakeState.mixDh prim token
      return [])
    (hread : ∀ message, HandshakeState.readToken prim message token = do
      HandshakeState.mixDh prim token
      return message) (secret rest : Bytes) :
    Passes prim secret known' writer reader token rest := by
  obtain ⟨shared, hwriter, hreader⟩ := h.dhSecret hprim hafter
  subst hkept
  refine ⟨[], _, _, ?_, ?_,
    h.withSymmetric (SymmetricState.mixKey prim shared writer.symmetric), ?_, Nat.zero_le _,
    ⟨rfl, rfl, rfl, rfl⟩, ⟨rfl, rfl, rfl, rfl⟩⟩
  · rw [hwrite]
    exact Call.bind_ok_iff.mpr ⟨(), _, mixDh_ok hwriter, rfl⟩
  · rw [hread, ← h.symmetric]
    exact Call.bind_ok_iff.mpr ⟨(), _, mixDh_ok hreader, rfl⟩
  · exact Nat.zero_le _

lemma mixPsk_ok {state : HandshakeState} {psk : Bytes} (h : state.psk = some psk) :
    HandshakeState.mixPsk prim state = (.ok (), { state with
      symmetric := SymmetricState.mixKeyAndHash prim psk state.symmetric }) := by
  refine Call.read_bind_ok_iff.mpr ?_
  rw [h]
  dsimp only
  rw [← h]
  rfl

lemma Mirror.passes_psk (h : Mirror prim known writer reader)
    (hafter : known.after writer.initiator .psk = some known') (secret rest : Bytes) :
    Passes prim secret known' writer reader .psk rest := by
  simp only [Known.after, Option.ite_none_right_eq_some, Option.some.injEq] at hafter
  obtain ⟨hpsk, rfl⟩ := hafter
  obtain ⟨psk, hwriter⟩ := Option.isSome_iff_exists.mp (h.knownPsk hpsk)
  have hreader : reader.psk = some psk := h.psk.trans hwriter
  refine ⟨[], _, _, ?_, ?_,
    h.withSymmetric (SymmetricState.mixKeyAndHash prim psk writer.symmetric), Nat.zero_le _,
    Nat.zero_le _, ⟨rfl, rfl, rfl, rfl⟩, ⟨rfl, rfl, rfl, rfl⟩⟩
  · exact Call.bind_ok_iff.mpr ⟨(), _, mixPsk_ok hwriter, rfl⟩
  · rw [← h.symmetric]
    exact Call.bind_ok_iff.mpr ⟨(), _, mixPsk_ok hreader, rfl⟩

lemma mixEphemeral_ok (state : HandshakeState) (publicKey : Bytes) :
    HandshakeState.mixEphemeral prim publicKey state = (.ok (), { state with
      symmetric :=
        if state.isPsk then
          SymmetricState.mixKey prim publicKey (SymmetricState.mixHash prim publicKey state.symmetric)
        else SymmetricState.mixHash prim publicKey state.symmetric }) := by
  cases hpsk : state.isPsk <;>
    simp [HandshakeState.mixEphemeral, Call.bind_apply, hpsk, HandshakeState.onSymmetric]

lemma exists_ephemeral (hfixed : ∀ e ∈ writer.fixedEphemeral, e.Valid prim) {secret : Bytes}
    (hsecret : secret.length = dhLen) :
    ∃ e : KeyPair, e.Valid prim ∧
      HandshakeState.ephemeral prim secret writer = (.ok e, writer) := by
  unfold HandshakeState.ephemeral
  cases hcase : writer.fixedEphemeral with
  | some e =>
      refine ⟨e, hfixed e hcase, Call.read_bind_ok_iff.mpr ?_⟩
      rw [hcase]
      rfl
  | none =>
      have hpair : keyPairFromPrivate prim secret =
          .ok { privateKey := secret, publicKey := prim.getPublicKey secret } :=
        if_neg (not_not.mpr hsecret)
      refine ⟨{ privateKey := secret, publicKey := prim.getPublicKey secret }, hpair,
        Call.read_bind_ok_iff.mpr ?_⟩
      rw [hcase]
      exact Call.liftExcept_ok_iff.mpr ⟨hpair, rfl⟩

lemma Mirror.passes_e (hprim : prim.Lawful) (h : Mirror prim known writer reader) {secret : Bytes}
    (hsecret : secret.length = dhLen) (rest : Bytes) :
    Passes prim secret { known with writerE := true } writer reader .e rest := by
  obtain ⟨e, he, hdraw⟩ := exists_ephemeral h.writerFixed hsecret
  have hlength := hprim.publicKey_length he
  let mixed : SymmetricState :=
    if writer.isPsk then
      SymmetricState.mixKey prim e.publicKey
        (SymmetricState.mixHash prim e.publicKey writer.symmetric)
    else SymmetricState.mixHash prim e.publicKey writer.symmetric
  have hnonce : mixed.cipher.nonce ≤ writer.symmetric.cipher.nonce := by
    simp only [mixed]
    split
    · exact Nat.zero_le _
    · exact le_rfl
  refine ⟨e.publicKey, { writer with e := some e, symmetric := mixed },
    { reader with re := some e.publicKey, symmetric := mixed }, ?_, ?_, ?_,
    hnonce.trans (Nat.le_succ _), hlength.le, ⟨rfl, rfl, rfl, rfl⟩, ⟨rfl, rfl, rfl, rfl⟩⟩
  · refine Call.bind_ok_iff.mpr ⟨e, writer, hdraw, ?_⟩
    refine Call.update_bind_ok_iff.mpr (Call.bind_ok_iff.mpr ⟨(), _, mixEphemeral_ok _ _, rfl⟩)
  · refine Call.liftExcept_bind_ok_iff.mpr ⟨(e.publicKey, rest), take_append hlength, ?_⟩
    refine Call.update_bind_ok_iff.mpr (Call.bind_ok_iff.mpr ⟨(), _, mixEphemeral_ok _ _, ?_⟩)
    simp only [mixed, ← h.symmetric, ← h.isPsk]
    rfl
  · exact { h with
      symmetric := rfl
      writerE := by
        rintro e' ⟨⟩
        exact he
      readerRe := rfl
      knownWriterE := fun _ => rfl }

lemma Mirror.passes_s (hprim : prim.Lawful) (h : Mirror prim known writer reader)
    (hnonce : writer.symmetric.cipher.nonce < maxSafeInteger) (secret rest : Bytes) :
    Passes prim secret { known with writerS := true } writer reader .s rest := by
  obtain ⟨part, symmetric, hencrypts, hdecrypts, hnext, hlength⟩ :=
    encryptAndHash_ok hprim hnonce writer.s.publicKey
  rw [hprim.publicKey_length h.writerStatic] at hlength
  refine ⟨part, { writer with symmetric := symmetric },
    { reader with symmetric := symmetric, rs := some writer.s.publicKey }, ?_, ?_, ?_, hnext, ?_,
    ⟨rfl, rfl, rfl, rfl⟩, ⟨rfl, rfl, rfl, rfl⟩⟩
  · exact Call.read_bind_ok_iff.mpr (onSymmetric_ok hencrypts)
  · refine Call.read_bind_ok_iff.mpr (Call.liftExcept_bind_ok_iff.mpr ⟨(part, rest), ?_, ?_⟩)
    · rw [h.symmetric]
      exact take_append hlength
    · rw [← h.symmetric] at hdecrypts
      refine Call.bind_ok_iff.mpr ⟨writer.s.publicKey, _, onSymmetric_ok hdecrypts, ?_⟩
      have hexpected : reader.rs.any (fun known => decide (known ≠ writer.s.publicKey)) = false := by
        rw [Option.any_eq_false_iff_get]
        intro hsome
        simp [h.readerRs _ (Option.get_mem hsome)]
      rw [hexpected]
      rfl
  · exact { h with
      symmetric := rfl
      readerRs := by
        rintro key ⟨⟩
        rfl
      knownWriterS := fun _ => rfl }
  · rw [hlength, partLength]
    split
    · exact le_rfl
    · exact Nat.le_add_right _ _

lemma Mirror.passes (hprim : prim.Lawful) (h : Mirror prim known writer reader)
    (hafter : known.after writer.initiator token = some known')
    (hnonce : writer.symmetric.cipher.nonce < maxSafeInteger) {secret : Bytes}
    (hsecret : secret.length = dhLen) (rest : Bytes) :
    Passes prim secret known' writer reader token rest := by
  cases token with
  | e =>
      cases hafter
      exact h.passes_e hprim hsecret rest
  | s =>
      cases hafter
      exact h.passes_s hprim hnonce secret rest
  | psk => exact h.passes_psk hafter secret rest
  | ee =>
      have hkept := (Option.ite_none_right_eq_some.mp hafter).2
      exact h.passes_dh hprim hafter (Option.some.inj hkept).symm (fun _ => rfl) (fun _ => rfl) _ _
  | es =>
      have hkept := (Option.ite_none_right_eq_some.mp hafter).2
      exact h.passes_dh hprim hafter (Option.some.inj hkept).symm (fun _ => rfl) (fun _ => rfl) _ _
  | se =>
      have hkept := (Option.ite_none_right_eq_some.mp hafter).2
      exact h.passes_dh hprim hafter (Option.some.inj hkept).symm (fun _ => rfl) (fun _ => rfl) _ _
  | ss =>
      have hkept := (Option.ite_none_right_eq_some.mp hafter).2
      exact h.passes_dh hprim hafter (Option.some.inj hkept).symm (fun _ => rfl) (fun _ => rfl) _ _

lemma Mirror.passes_all (hprim : prim.Lawful) {secret : Bytes} (hsecret : secret.length = dhLen)
    (rest : Bytes) (tokens : List Token) (h : Mirror prim known writer reader)
    (hafter : known.afterAll writer.initiator tokens = some known')
    (hnonce : writer.symmetric.cipher.nonce + tokens.length < maxSafeInteger) :
    ∃ parts writer' reader',
      HandshakeState.writeTokens prim secret tokens writer = (.ok parts, writer') ∧
      HandshakeState.readTokens prim (parts ++ rest) tokens reader = (.ok rest, reader') ∧
      Mirror prim known' writer' reader' ∧
      writer'.symmetric.cipher.nonce ≤ writer.symmetric.cipher.nonce + tokens.length ∧
      parts.length ≤ (tokens.map partLength).sum ∧
      SameParty writer writer' ∧ SameParty reader reader' := by
  induction tokens generalizing known writer reader with
  | nil =>
      cases hafter
      exact ⟨[], writer, reader, rfl, rfl, h, le_rfl, le_rfl, ⟨rfl, rfl, rfl, rfl⟩,
        ⟨rfl, rfl, rfl, rfl⟩⟩
  | cons token tokens ih =>
      obtain ⟨next, hnext, hafter⟩ := Option.bind_eq_some_iff.mp hafter
      rw [List.length_cons] at hnonce
      -- what the later tokens write is not known before the first one has been written
      obtain ⟨part, w, _, hwrites, -, hmirror, hnonce₁, -, hwriter, -⟩ :=
        h.passes hprim hnext (by omega) hsecret []
      obtain ⟨parts, w', _, hwrites', -⟩ :=
        ih hmirror (hwriter.initiator ▸ hafter) (by omega)
      obtain ⟨_, _, r, hsame, hreads, hmirror, -, hlength, -, hreader⟩ :=
        h.passes hprim hnext (by omega) hsecret (parts ++ rest)
      cases hwrites.symm.trans hsame
      obtain ⟨_, _, r', hsame', hreads', hmirror', hnonce₂, hlength', hwriter', hreader'⟩ :=
        ih hmirror (hwriter.initiator ▸ hafter) (by omega)
      cases hwrites'.symm.trans hsame'
      refine ⟨part ++ parts, w', r', ?_, ?_, hmirror', by rw [List.length_cons]; omega, ?_,
        hwriter.trans hwriter', hreader.trans hreader'⟩
      · exact Call.bind_ok_iff.mpr ⟨part, w, hwrites, Call.bind_ok_iff.mpr ⟨parts, w', hwrites', rfl⟩⟩
      · rw [List.append_assoc]
        exact Call.bind_ok_iff.mpr ⟨parts ++ rest, r, hreads, hreads'⟩
      · simp only [List.length_append, List.map_cons, List.sum_cons]
        omega

lemma Mirror.turned (h : Mirror prim known writer reader) :
    Mirror prim known.turned reader writer where
  symmetric := h.symmetric.symm
  messages := h.messages.symm
  index := h.index.symm
  roles := by simp [h.roles]
  isPsk := h.isPsk.symm
  psk := h.psk.symm
  writerStatic := h.readerStatic
  readerStatic := h.writerStatic
  writerE := h.readerE
  readerE := h.writerE
  writerFixed := h.readerFixed
  readerFixed := h.writerFixed
  readerRe := h.writerRe
  writerRe := h.readerRe
  readerRs := h.writerRs
  writerRs := h.readerRs
  knownWriterE := h.knownReaderE
  knownReaderE := h.knownWriterE
  knownWriterS := h.knownReaderS
  knownReaderS := h.knownWriterS
  knownPsk hknown := h.psk ▸ h.knownPsk hknown

lemma Mirror.message (hprim : prim.Lawful) {secret : Bytes} (hsecret : secret.length = dhLen)
    (h : Mirror prim known writer reader) (tokens : List Token) (payload : Bytes)
    (htokens : writer.messages[writer.index]? = some tokens)
    (hturn : decide (writer.index % 2 = 0) = writer.initiator)
    (hafter : known.afterAll writer.initiator tokens = some known')
    (hnonce : writer.symmetric.cipher.nonce + tokens.length < maxSafeInteger)
    (hsmall : (tokens.map partLength).sum + (payload.length + tagLen) ≤ maxNoiseMessage) :
    ∃ message writer' reader',
      HandshakeState.writeMessage prim secret payload writer = (.ok message, writer') ∧
      HandshakeState.readMessage prim message reader = (.ok payload, reader') ∧
      Mirror prim known' writer' reader' ∧
      writer'.symmetric.cipher.nonce ≤ writer.symmetric.cipher.nonce + tokens.length + 1 ∧
      writer'.messages = writer.messages ∧ writer'.initiator = writer.initiator ∧
      writer'.index = writer.index + 1 ∧ writer'.s = writer.s ∧ reader'.s = reader.s := by
  have hunfinished : ∀ state : HandshakeState, state.messages = writer.messages →
      state.index = writer.index → state.finished = false ∧
        state.messages.getD state.index [] = tokens := by
    intro state hmessages hindex
    obtain ⟨hlt, -⟩ := List.getElem?_eq_some_iff.mp htokens
    rw [HandshakeState.finished, hmessages, hindex]
    exact ⟨by simpa using hlt, by simp [List.getD, htokens]⟩
  obtain ⟨hwriterUnfinished, hwriterTokens⟩ := hunfinished writer rfl rfl
  obtain ⟨hreaderUnfinished, hreaderTokens⟩ := hunfinished reader h.messages h.index
  have hwriterTurn : writer.myTurn = true := by
    rw [HandshakeState.myTurn, hturn, beq_self_eq_true]
  have hreaderTurn : reader.myTurn = false := by
    rw [HandshakeState.myTurn, h.index, h.roles, hturn]
    cases writer.initiator <;> rfl
  obtain ⟨parts, w, _, hwrites, -, -, hw, hlength, -, -⟩ :=
    h.passes_all hprim hsecret [] tokens hafter hnonce
  obtain ⟨last, symmetric, hencrypts, hdecrypts, hnext, hlast⟩ :=
    encryptAndHash_ok hprim (lt_of_le_of_lt hw hnonce) payload
  obtain ⟨parts', w', r', hwrites', hreads, hmirror, -, -, hwriter, hreader⟩ :=
    h.passes_all hprim hsecret last tokens hafter hnonce
  cases hwrites.symm.trans hwrites'
  have hfits : ¬(parts ++ last).length > maxNoiseMessage := by
    have hle : last.length ≤ payload.length + tagLen := by
      rw [hlast]
      split
      · exact le_rfl
      · exact Nat.le_add_right _ _
    rw [List.length_append]
    omega
  refine ⟨parts ++ last, { w with symmetric := symmetric, index := w.index + 1 },
    { r' with symmetric := symmetric, index := r'.index + 1 }, ?_, ?_,
    { hmirror.withSymmetric symmetric with index := congrArg (· + 1) hmirror.index },
    (by show symmetric.cipher.nonce ≤ _; omega), hwriter.messages, hwriter.initiator,
    congrArg (· + 1) hwriter.index, hwriter.s, hreader.s⟩
  · refine Call.read_bind_ok_iff.mpr ?_
    rw [if_neg (by simp [hwriterUnfinished, hwriterTurn]), hwriterTokens]
    refine Call.bind_ok_iff.mpr ⟨parts, w, hwrites, ?_⟩
    refine Call.bind_ok_iff.mpr ⟨last, _, onSymmetric_ok hencrypts, ?_⟩
    refine Call.update_bind_ok_iff.mpr ?_
    rw [if_neg hfits]
    rfl
  · refine Call.read_bind_ok_iff.mpr ?_
    rw [if_neg (by simp [hreaderUnfinished, hreaderTurn]), if_neg hfits, hreaderTokens]
    refine Call.bind_ok_iff.mpr ⟨last, r', hreads, ?_⟩
    rw [← hmirror.symmetric] at hdecrypts
    exact Call.bind_ok_iff.mpr ⟨payload, _, onSymmetric_ok hdecrypts, rfl⟩

end Tokens

section Transport

def encryptAll (prim : Primitives) : List (Bytes × Bytes) → Call CipherState String (List Bytes)
  | [] => pure []
  | (ad, plaintext) :: rest => do
      let ciphertext ← CipherState.encryptWithAd prim ad plaintext
      let others ← encryptAll prim rest
      return ciphertext :: others

def decryptAll (prim : Primitives) : List (Bytes × Bytes) → Call CipherState String (List Bytes)
  | [] => pure []
  | (ad, ciphertext) :: rest => do
      let plaintext ← CipherState.decryptWithAd prim ad ciphertext
      let others ← decryptAll prim rest
      return plaintext :: others

variable {cipher cipher' : CipherState} {sent : List (Bytes × Bytes)} {received : List Bytes}

lemma decryptAll_encrypted (hprim : prim.Lawful)
    (h : encryptAll prim sent cipher = (.ok received, cipher')) :
    decryptAll prim ((sent.map Prod.fst).zip received) cipher =
      (.ok (sent.map Prod.snd), cipher') := by
  induction sent generalizing cipher received with
  | nil =>
      cases h
      rfl
  | cons message rest ih =>
      obtain ⟨ciphertext, next, hencrypts, hrest⟩ := Call.bind_ok_iff.mp h
      obtain ⟨others, last, hothers, hreturn⟩ := Call.bind_ok_iff.mp hrest
      cases hreturn
      exact Call.bind_ok_iff.mpr ⟨message.2, next, decryptWithAd_encrypted hprim hencrypts,
        Call.bind_ok_iff.mpr ⟨rest.map Prod.snd, cipher', ih hothers, rfl⟩⟩

lemma encryptAll_ok (hnonce : cipher.nonce + sent.length ≤ maxSafeInteger) :
    ∃ received cipher', encryptAll prim sent cipher = (.ok received, cipher') := by
  induction sent generalizing cipher with
  | nil => exact ⟨[], cipher, rfl⟩
  | cons message rest ih =>
      rw [List.length_cons] at hnonce
      obtain ⟨ciphertext, next, hencrypts, hnext⟩ := encryptWithAd_ok prim message.1
        message.2 (show cipher.nonce < maxSafeInteger by omega)
      obtain ⟨others, last, hothers⟩ := ih (show next.nonce + rest.length ≤ maxSafeInteger by omega)
      exact ⟨ciphertext :: others, last, Call.bind_ok_iff.mpr ⟨ciphertext, next, hencrypts,
        Call.bind_ok_iff.mpr ⟨others, last, hothers, rfl⟩⟩⟩

/-- Every sequence of messages that one cipher encrypts the other decrypts in order, and up to the
last nonce each of them is encrypted. -/
def Delivers (prim : Primitives) (send receive : CipherState) : Prop :=
  ∀ sent : List (Bytes × Bytes),
    (∀ received cipher', encryptAll prim sent send = (.ok received, cipher') →
      decryptAll prim ((sent.map Prod.fst).zip received) receive =
        (.ok (sent.map Prod.snd), cipher')) ∧
    (sent.length ≤ maxSafeInteger →
      ∃ received cipher', encryptAll prim sent send = (.ok received, cipher'))

lemma delivers (hprim : prim.Lawful) (key : Option Bytes) :
    Delivers prim (.new key) (.new key) := by
  intro sent
  refine ⟨fun received cipher' h => decryptAll_encrypted hprim h, fun hlength => encryptAll_ok ?_⟩
  simpa [CipherState.new] using hlength

end Transport

section Handshake

/-- The options of two sides that mean the same handshake. -/
structure Matching (prim : Primitives) (initiator responder : HandshakeOptions) : Prop where
  supported : initiator.protocolName ∈ [resumePattern, pairPattern]
  protocolName : responder.protocolName = initiator.protocolName
  initiates : initiator.initiator = true
  responds : responder.initiator = false
  prologue : responder.prologue = initiator.prologue
  initiatorStatic : initiator.localStatic.Valid prim
  responderStatic : responder.localStatic.Valid prim
  remoteStatic : initiator.remoteStatic = some responder.localStatic.publicKey
  expectedStatic : ∀ key ∈ responder.remoteStatic, key = initiator.localStatic.publicKey
  psk : responder.psk = initiator.psk
  pskGiven : initiator.protocolName = pairPattern → initiator.psk.isSome = true
  initiatorEphemeral : ∀ e ∈ initiator.localEphemeral, e.Valid prim
  responderEphemeral : ∀ e ∈ responder.localEphemeral, e.Valid prim

def knownAtStart (options : HandshakeOptions) : Known where
  writerE := false
  readerE := false
  writerS := false
  readerS := true
  psk := options.psk.isSome

variable {initiator responder : HandshakeOptions}

lemma Matching.patterns (h : Matching prim initiator responder) :
    ∃ last known,
      (messages.find? fun entry => entry.1 = initiator.protocolName).map Prod.snd =
        some [[.e, .es, .s, .ss], last] ∧
      (knownAtStart initiator).afterAll true [.e, .es, .s, .ss] =
        some { knownAtStart initiator with writerE := true, writerS := true } ∧
      ({ knownAtStart initiator with writerE := true, writerS := true } : Known).turned.afterAll
        false last = some known ∧
      known.writerS = true ∧ known.readerS = true ∧ (last.map partLength).sum = dhLen ∧
      last.length ≤ 4 := by
  have hsupported := h.supported
  rw [List.mem_cons, List.mem_singleton] at hsupported
  rcases hsupported with hname | hname
  · refine ⟨[.e, .ee, .se], ⟨true, true, true, true, initiator.psk.isSome⟩, ?_, rfl, rfl, rfl,
      rfl, rfl, by decide⟩
    rw [hname]
    decide
  · refine ⟨[.e, .ee, .se, .psk], ⟨true, true, true, true, true⟩, ?_, rfl, ?_, rfl, rfl, rfl,
      by decide⟩
    · rw [hname]
      decide
    · rw [knownAtStart, h.pskGiven hname]
      rfl

lemma Matching.new (h : Matching prim initiator responder) {patterns : List (List Token)}
    (hpatterns : (messages.find? fun entry => entry.1 = initiator.protocolName).map Prod.snd =
      some patterns) :
    ∃ i r, HandshakeState.new prim initiator = .ok i ∧ HandshakeState.new prim responder = .ok r ∧
      Mirror prim (knownAtStart initiator) i r ∧ i.messages = patterns ∧ i.initiator = true ∧
      i.index = 0 ∧ i.symmetric.cipher.nonce = 0 ∧ i.s = initiator.localStatic ∧
      r.s = responder.localStatic := by
  have hinitiator : HandshakeState.new prim initiator = .ok {
      symmetric := ((SymmetricState.new prim initiator.protocolName).mixHash prim
        initiator.prologue).mixHash prim responder.localStatic.publicKey
      messages := patterns
      initiator := true
      isPsk := decide ("psk".toList <:+: initiator.protocolName.toList)
      s := initiator.localStatic
      e := none
      rs := some responder.localStatic.publicKey
      re := none
      psk := initiator.psk
      fixedEphemeral := initiator.localEphemeral
      index := 0 } := by
    unfold HandshakeState.new
    rw [hpatterns]
    simp [h.remoteStatic, h.initiates]
  have hresponder : HandshakeState.new prim responder = .ok {
      symmetric := ((SymmetricState.new prim initiator.protocolName).mixHash prim
        initiator.prologue).mixHash prim responder.localStatic.publicKey
      messages := patterns
      initiator := false
      isPsk := decide ("psk".toList <:+: initiator.protocolName.toList)
      s := responder.localStatic
      e := none
      rs := responder.remoteStatic
      re := none
      psk := initiator.psk
      fixedEphemeral := responder.localEphemeral
      index := 0 } := by
    unfold HandshakeState.new
    rw [h.protocolName, hpatterns]
    simp [h.responds, h.prologue, h.psk]
  refine ⟨_, _, hinitiator, hresponder, ?_, rfl, rfl, rfl, rfl, rfl, rfl⟩
  exact {
    symmetric := rfl
    messages := rfl
    index := rfl
    roles := rfl
    isPsk := rfl
    psk := rfl
    writerStatic := h.initiatorStatic
    readerStatic := h.responderStatic
    writerE := by rintro e ⟨⟩
    readerE := by rintro e ⟨⟩
    writerFixed := h.initiatorEphemeral
    readerFixed := h.responderEphemeral
    readerRe := rfl
    writerRe := rfl
    readerRs := h.expectedStatic
    writerRs := by
      rintro key ⟨⟩
      rfl
    knownWriterE := by rintro ⟨⟩
    knownReaderE := by rintro ⟨⟩
    knownWriterS := by rintro ⟨⟩
    knownReaderS := fun _ => rfl
    knownPsk := id }

/-- The engine agrees with itself: every message is read as it was written, and both sides end with
one hash, each other's static key and the same transport keys. -/
theorem both_sides_agree (hprim : prim.Lawful) (h : Matching prim initiator responder)
    (first second secret secret' : Bytes) (hsecret : secret.length = dhLen)
    (hsecret' : secret'.length = dhLen)
    (hfirst : dhLen + (dhLen + tagLen) + (first.length + tagLen) ≤ maxNoiseMessage)
    (hsecond : dhLen + (second.length + tagLen) ≤ maxNoiseMessage) :
    ∃ i₀ r₀ message i₁ r₁ message' i₂ r₂ ci cr,
      HandshakeState.new prim initiator = .ok i₀ ∧ HandshakeState.new prim responder = .ok r₀ ∧
      HandshakeState.writeMessage prim secret first i₀ = (.ok message, i₁) ∧
      HandshakeState.readMessage prim message r₀ = (.ok first, r₁) ∧
      HandshakeState.writeMessage prim secret' second r₁ = (.ok message', r₂) ∧
      HandshakeState.readMessage prim message' i₁ = (.ok second, i₂) ∧
      i₂.handshakeHash = r₂.handshakeHash ∧
      i₂.remoteStatic = some responder.localStatic.publicKey ∧
      r₂.remoteStatic = some initiator.localStatic.publicKey ∧
      HandshakeState.split prim i₂ = .ok ci ∧ HandshakeState.split prim r₂ = .ok cr ∧
      ci.send = cr.receive ∧ cr.send = ci.receive ∧
      Delivers prim ci.send cr.receive ∧ Delivers prim cr.send ci.receive := by
  obtain ⟨last, known, hpatterns, hknown, hknown', hwriterS, hreaderS, hsum, hlast⟩ := h.patterns
  obtain ⟨i₀, r₀, hi₀, hr₀, hmirror, hmessages, hinitiates, hindex, hnonce, hi, hr⟩ :=
    h.new hpatterns
  have hbound : (10 : ℕ) < maxSafeInteger := by decide
  obtain ⟨message, i₁, r₁, hwrites, hreads, hmirror₁, hnonce₁, hmessages₁, hinitiates₁, hindex₁,
    hi₁, hr₁⟩ := hmirror.message hprim hsecret [.e, .es, .s, .ss] first
      (by rw [hmessages, hindex]; rfl) (by rw [hindex, hinitiates]; rfl) (by rw [hinitiates, hknown])
      (by rw [hnonce]; decide) hfirst
  have hresponds : r₁.initiator = false := by rw [hmirror₁.roles, hinitiates₁, hinitiates]; rfl
  have hindex₁' : r₁.index = 1 := by rw [hmirror₁.index, hindex₁, hindex]
  obtain ⟨message', r₂, i₂, hwrites', hreads', hmirror₂, -, hmessages₂, hresponds₂, hindex₂, hr₂,
    hi₂⟩ := hmirror₁.turned.message hprim hsecret' last second
      (by rw [hmirror₁.messages, hmessages₁, hmessages, hindex₁']; rfl)
      (by rw [hindex₁', hresponds]; rfl) (by rw [hresponds, hknown'])
      (by
        rw [hmirror₁.symmetric]
        simp only [List.length_cons, List.length_nil] at hnonce₁
        omega)
      (by rw [hsum]; exact hsecond)
  have hfinished : ∀ state : HandshakeState, state.messages = r₂.messages →
      state.index = r₂.index → state.finished = true := by
    intro state hstate hstate'
    rw [HandshakeState.finished, hstate, hstate', hmessages₂, hmirror₁.messages, hmessages₁,
      hmessages, hindex₂, hindex₁']
    rfl
  have hresponds₂' : r₂.initiator = false := hresponds₂.trans hresponds
  have hinitiates₂ : i₂.initiator = true := by rw [hmirror₂.roles, hresponds₂']; rfl
  let keys := r₂.symmetric.split prim
  refine ⟨i₀, r₀, message, i₁, r₁, message', i₂, r₂, { send := keys.1, receive := keys.2 },
    { send := keys.2, receive := keys.1 }, hi₀, hr₀, hwrites, hreads, hwrites', hreads',
    congrArg SymmetricState.hash hmirror₂.symmetric, ?_, ?_, ?_, ?_, rfl, rfl,
    delivers hprim _, delivers hprim _⟩
  · obtain ⟨key, hkey⟩ := Option.isSome_iff_exists.mp (hmirror₂.knownWriterS hwriterS)
    rw [HandshakeState.remoteStatic, hkey, hmirror₂.readerRs key hkey, hr₂, hr₁, hr]
  · obtain ⟨key, hkey⟩ := Option.isSome_iff_exists.mp (hmirror₂.knownReaderS hreaderS)
    rw [HandshakeState.remoteStatic, hkey, hmirror₂.writerRs key hkey, hi₂, hi₁, hi]
  · rw [HandshakeState.split, hfinished i₂ hmirror₂.messages hmirror₂.index, hmirror₂.symmetric,
      hinitiates₂]
    rfl
  · rw [HandshakeState.split, hfinished r₂ rfl rfl, hresponds₂']
    rfl

def demoPrimitives : Primitives where
  getPublicKey key := key
  getSharedSecret a b := List.zipWith (· + ·) a b
  sha256 data := [data.foldl (· + ·) 1]
  hmac key data := [(key ++ data).foldl (· + ·) 2]
  encrypt _ _ _ plaintext := plaintext ++ List.replicate tagLen 0
  decrypt _ _ _ ciphertext := some (ciphertext.take (ciphertext.length - tagLen))
  utf8 text := text.toList.map fun c => UInt8.ofNat c.toNat

lemma demoPrimitives_lawful : demoPrimitives.Lawful where
  publicKeyLength _ h := h
  dhComm a b _ _ := List.zipWith_comm_of_comm fun x y => UInt8.add_comm x y
  decryptEncrypt key nonce ad plaintext := by simp [demoPrimitives]
  encryptLength key nonce ad plaintext := by simp [demoPrimitives]

def demoPair (n : UInt8) : KeyPair where
  privateKey := List.replicate dhLen n
  publicKey := List.replicate dhLen n

def demoOptions (initiates : Bool) : HandshakeOptions where
  protocolName := pairPattern
  initiator := initiates
  prologue := [9]
  localStatic := if initiates then demoPair 1 else demoPair 2
  remoteStatic := if initiates then some (demoPair 2).publicKey else none
  psk := some (List.replicate 32 7)
  localEphemeral := none

theorem both_sides_agree_demo : ∃ i₀ r₀ message i₁ r₁,
    HandshakeState.new demoPrimitives (demoOptions true) = .ok i₀ ∧
    HandshakeState.new demoPrimitives (demoOptions false) = .ok r₀ ∧
    HandshakeState.writeMessage demoPrimitives (List.replicate 32 3) [5] i₀ = (.ok message, i₁) ∧
    HandshakeState.readMessage demoPrimitives message r₀ = (.ok [5], r₁) := by
  have hmatching : Matching demoPrimitives (demoOptions true) (demoOptions false) := {
    supported := by decide
    protocolName := rfl
    initiates := rfl
    responds := rfl
    prologue := rfl
    initiatorStatic := rfl
    responderStatic := rfl
    remoteStatic := rfl
    expectedStatic := by rintro key ⟨⟩
    psk := rfl
    pskGiven := fun _ => rfl
    initiatorEphemeral := by rintro e ⟨⟩
    responderEphemeral := by rintro e ⟨⟩ }
  obtain ⟨i₀, r₀, message, i₁, r₁, _, _, _, _, _, hi₀, hr₀, hwrites, hreads, -⟩ :=
    both_sides_agree demoPrimitives_lawful hmatching [5] [] (List.replicate 32 3)
      (List.replicate 32 4) (by decide) (by decide) (by decide) (by decide)
  exact ⟨i₀, r₀, message, i₁, r₁, hi₀, hr₀, hwrites, hreads⟩

end Handshake

end DevCommandCenter.Noise
