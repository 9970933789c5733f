import SignatureTrust.Source.Entry

/-!
# `Source.Certificates` — where issuers are looked for

A source answers a name with the certificates that have it as their subject, in an order of its own.
It is a function: whatever stands behind it, asking does not change it, and a failure to answer is
an empty answer.

A `CertificateStore` is a source in memory. It keeps the order of arrival and one entry for each
**encoding**; what arrives again is dropped, so the first provenance of a certificate stays.
-/

set_option autoImplicit false

namespace SignatureTrust

abbrev CertificateSource := Name → List Entry

namespace CertificateSource

def inTurn (sources : List CertificateSource) : CertificateSource := fun name =>
  sources.flatMap fun source => source name

end CertificateSource

/-- Certificates in memory, with the provenance given to those that arrive without one. -/
structure CertificateStore where
  provenance : Provenance
  entries : List Entry
deriving Repr

namespace CertificateStore

def empty (p : Provenance) : CertificateStore := ⟨p, []⟩

/-- Whether a certificate with this encoding is there. -/
def holds (s : CertificateStore) (c : Certificate) : Bool :=
  s.entries.any fun e => e.certificate.sameEncoding c

/-- Adds an entry at the end, unless its certificate is there already. -/
def add (s : CertificateStore) (e : Entry) : CertificateStore :=
  if s.holds e.certificate then s else { s with entries := s.entries ++ [e] }

def addCertificate (s : CertificateStore) (c : Certificate) : CertificateStore :=
  s.add (.plain c s.provenance)

def addTrusted (s : CertificateStore) (c : Certificate) (service : Service) : CertificateStore :=
  s.add (.trusted c service)

def ofEntries (p : Provenance) (entries : List Entry) : CertificateStore :=
  entries.foldl add (empty p)

def ofCertificates (p : Provenance) (certificates : List Certificate) : CertificateStore :=
  certificates.foldl addCertificate (empty p)

/-- The entries with a subject, in order of arrival. -/
def bySubject (s : CertificateStore) : CertificateSource := fun name =>
  s.entries.filter fun e => e.certificate.subject.same name

theorem mem_of_mem_add {s : CertificateStore} {e f : Entry} (h : f ∈ (s.add e).entries) :
    f ∈ s.entries ∨ f = e := by
  unfold add at h
  split at h
  · exact .inl h
  · simpa using h

end CertificateStore
end SignatureTrust
