import SignatureTrust.Asn1.ObjectIdentifier

/-!
# `Asn1.AttributeLabel` — what an attribute type is called in a name

Eight types have an abbreviation. The others are called by their name in the register of
identifiers, **whatever the register has them for**: an attribute may be typed with the identifier
of an extension or an algorithm, and is then called as that. A type that is not registered is shown
as its identifier.

The register is written as it is administered, arc by arc below a stem: a name belongs to a stem and
one more arc, and the stem itself has a name only where it is a row of another list. The names are
the register's own, not those of the standards it draws on, so some are spelt as no standard spells
them, and two identifiers may share one.

Types are looked up by their octets, so a type whose arcs are not in their shortest form is not
registered, even if its dotted text is.
-/

set_option autoImplicit false

namespace SignatureTrust.Asn1

/-- Names for some of the arcs right below a stem. -/
structure Branch where
  stem : List Nat
  names : List (Nat × String)

namespace Branch

def labels (b : Branch) : List (ObjectIdentifier × String) :=
  b.names.map fun (arc, name) => (.ofArcs (b.stem ++ [arc]), name)

end Branch

def abbreviations : List Branch :=
  [⟨[2, 5, 4], [(3, "CN"), (6, "C"), (7, "L"), (8, "ST"), (10, "O"), (11, "OU")]⟩,
    ⟨[0, 9, 2342, 19200300, 100, 1], [(25, "DC")]⟩,
    ⟨[1, 2, 840, 113549, 1, 9], [(1, "Email")]⟩]

/-- The directory's attribute types, and what an authority for extended validation adds to them. -/
def attributeTypes : List Branch :=
  [⟨[2, 5], [(4, "x509")]⟩,
    ⟨[2, 5, 4], [(0, "objectClass"), (1, "aliasedEntryName"), (2, "knowledgeInformation"),
      (4, "surname"), (5, "serialNumber"), (9, "streetAddress"), (12, "title"), (13, "description"),
      (14, "searchGuide"), (15, "businessCategory"), (16, "postalAddress"), (17, "postalCode"),
      (41, "name"), (42, "givenName"), (43, "initials"), (44, "generationQualifier"),
      (45, "uniqueIdentifier"), (46, "dnQualifier")]⟩,
    ⟨[0, 9, 2342, 19200300, 100, 1], [(1, "uid")]⟩,
    ⟨[1, 3, 6, 1, 4, 1, 311, 60, 2, 1], [(1, "msJurisdictionLocality"),
      (2, "msJurisdictionStateOrProvince"), (3, "msJurisdictionCountry")]⟩]

/-- PKCS #7, #9 and #12: contents of messages, attributes of requests, messages and keys, and
encryption by password. -/
def messageTypes : List Branch :=
  [⟨[1, 2, 840, 113549, 1, 7], [(1, "pkcs7-data"), (2, "pkcs7-signedData"),
      (3, "pkcs7-envelopedData"), (4, "pkcs7-signedAndEnvelopedData"), (5, "pkcs7-digestedData"),
      (6, "pkcs7-encryptedData")]⟩,
    ⟨[1, 2, 840, 113549, 1, 9], [(2, "unstructuredName"), (3, "contentType"),
      (4, "id-messageDigest"), (5, "signing-time"), (7, "challengePassword"),
      (14, "extensionRequest"), (15, "smimeCapabilities"), (20, "friendlyName")]⟩,
    ⟨[1, 2, 840, 113549, 1], [(12, "pkcs-12")]⟩,
    ⟨[1, 2, 840, 113549, 1, 12], [(1, "pkcs-12PbeIds")]⟩,
    ⟨[1, 2, 840, 113549, 1, 12, 1], [(1, "pbeWithSHAAnd128BitRC4"), (2, "pbeWithSHAAnd40BitRC4"),
      (3, "pbeWithSHAAnd3-KeyTripleDES-CBC"), (4, "pbeWithSHAAnd2-KeyTripleDES-CBC"),
      (5, "pbeWithSHAAnd128BitRC2-CBC"), (6, "pbeWithSHAAnd40BitRC2-CBC")]⟩]

/-- Extensions of certificates and CRLs, with the ones they replaced, and the kinds of access that
an extension may describe. -/
def extensionNames : List Branch :=
  [⟨[2, 5, 29], [(1, "oldAuthorityKeyIdentifier"), (2, "oldKeyAttributes"),
      (3, "oldCertificatePolicies"), (4, "oldKeyUsage"), (5, "oldPolicyMapping"),
      (6, "oldSubtreesConstraint"), (7, "oldSubjectAltNAme"), (8, "oldIssuerAltNAme"),
      (14, "subjectKeyIdentifier"), (15, "keyUsage"), (16, "privateKeyUsagePeriod"),
      (17, "subjectAltName"), (18, "issuerAltName"), (19, "basicConstraints"), (20, "crlNumber"),
      (21, "reasonCode"), (23, "holdInstructionCode"), (24, "invalidityDate"),
      (27, "deltaCRLIndicator"), (28, "issuerDistributionPoint"), (29, "issuer"),
      (30, "nameConstraints"), (31, "crlDistributionPoints"), (32, "certificatePolicies"),
      (33, "policyMappings"), (35, "authorityKeyIdentifier"), (36, "policyConstraints"),
      (37, "extendedKeyUsage"), (46, "freshestCRL"), (54, "inhibitantAnyPolicy")]⟩,
    ⟨[1, 3, 6, 1, 5, 5, 7, 1], [(1, "authorityInfoAccess")]⟩,
    ⟨[1, 3, 6, 1, 5, 5, 7, 48], [(1, "id-ad-ocsp"), (2, "id-ad-caIssuers"),
      (3, "id-ad-timestamping"), (4, "id-ad-dvcs"), (5, "id-ad-caRepository"),
      (6, "id-ad-http-certs"), (7, "id-ad-http-crls"), (10, "id-ad-rpki-manifest"),
      (11, "id-ad-signed-object"), (12, "id-ad-cmc"), (13, "id-ad-rpki-notify"),
      (14, "id-ad-stirTNList")]⟩,
    ⟨[1, 3, 6, 1, 4, 1, 11129, 2, 4], [(2, "ctSCTList")]⟩,
    ⟨[2, 16, 840, 1, 113730, 1], [(1, "nsCertType"), (2, "nsBaseURL"), (3, "nsRevocationURL"),
      (4, "nsCARevocationURL"), (5, "nsCACRLURL"), (6, "nsCACertURL"), (7, "nsRenewalURL"),
      (8, "nsCAPolicyURL"), (9, "nsHomepageURL"), (10, "nsEntityLogo"), (11, "nsUserPicture"),
      (12, "nsSSLServerName"), (13, "nsComment")]⟩]

def algorithmNames : List Branch :=
  [⟨[1, 2, 840, 113549, 1, 1], [(1, "rsaEncryption"), (2, "md2WithRSAEncryption"),
      (3, "md4WithRSAEncryption"), (4, "md5WithRSAEncryption"), (5, "sha1WithRSAEncryption"),
      (8, "id-mgf1"), (10, "rsassa-pss"), (11, "sha256WithRSAEncryption"),
      (12, "sha384WithRSAEncryption"), (13, "sha512WithRSAEncryption"),
      (14, "sha224WithRSAEncryption")]⟩,
    ⟨[1, 3, 36, 3, 3, 1], [(2, "rsaSignatureWithripemd160")]⟩,
    ⟨[1, 2, 840, 10040, 4], [(1, "id-dsa"), (3, "dsa-with-sha1")]⟩,
    ⟨[1, 2, 840, 10045, 2], [(1, "id-ecPublicKey")]⟩,
    ⟨[1, 2, 840, 10045, 3, 1], [(7, "prime256v1")]⟩,
    ⟨[1, 3, 132, 0], [(34, "secp384r1"), (35, "secp521r1")]⟩,
    ⟨[1, 2, 840, 10045, 4, 3], [(1, "ecdsa-with-SHA224"), (2, "ecdsa-with-SHA256"),
      (3, "ecdsa-with-SHA384"), (4, "ecdsa-with-SHA512")]⟩,
    ⟨[1, 3, 133, 16, 840, 63, 0], [(2, "dhSinglePass-stdDH-sha1kdf-scheme")]⟩,
    ⟨[1, 3, 101], [(112, "ed25519"), (113, "ed448")]⟩,
    ⟨[1, 2, 643, 2, 2], [(3, "id-GostR3411-94-with-GostR3410-2001"), (19, "gostR3410-2001")]⟩,
    ⟨[1, 2, 643, 7, 1, 1, 1], [(1, "gost3410-2012-256"), (2, "gost3410-2012-512")]⟩,
    ⟨[1, 2, 643, 7, 1, 1, 3], [(2, "id-tc26-signwithdigest-gost3410-12-256"),
      (3, "id-tc26-signwithdigest-gost3410-12-512")]⟩,
    ⟨[1, 3, 14, 3, 2], [(25, "md5WithRSASignature"), (26, "id-SHA1"),
      (29, "sha1WithRSAEncryption")]⟩,
    ⟨[2, 16, 840, 1, 101, 3, 4, 2], [(1, "sha256"), (2, "sha384"), (3, "sha512")]⟩,
    ⟨[2, 16, 840, 1, 101, 3, 4, 1], [(42, "aes-256-cbc")]⟩]

/-- Every label, under the octets of its identifier. -/
def attributeLabels : List (ObjectIdentifier × String) :=
  (abbreviations ++ attributeTypes ++ messageTypes ++ extensionNames ++
    algorithmNames).flatMap Branch.labels

/-- What a type is called, or its identifier in parentheses. -/
def attributeLabel (type : ObjectIdentifier) : String :=
  match attributeLabels.lookup type with
  | some label => label
  | none => "OID(" ++ type.text ++ ")"

end SignatureTrust.Asn1
