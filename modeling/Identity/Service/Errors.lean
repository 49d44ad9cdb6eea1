namespace identity.service

/-- The sentinel errors of the service package that the modelled code returns. -/
inductive Sentinel where
  | unauthenticated
  | permissionDenied
  | invalidArgument
  | notFound
  | alreadyExists
  | accountNotActive
  | accountDeletionNotAllowed
  | invitationPending
  | parentalConsentRequired
  | parentalConsentNotPending
  | parentalConsentStepUpFailed
  | parentalConsentFactorMissing
  | managedChildNotMinor
  | accountKindOff
  | invitationUsed
  | invitationExpired
  | accountMergeDisabled
  | reauthenticationRequired
  | localAuthDisabled
  | signupDisabled
  | signupThrottled
  | passwordChangeRequired
  | noPasswordSet
  | totpRequired
  | invalidTotpCode
  | oauthDisabled
  | scimNotFound
  | scimInvalidValue
  | unavailable
  | tokenExpired
  | sessionExpired
  | qrLoginExpired
  | qrLoginNotPending
  | emailLoginCodeInvalid
  | phoneCodeInvalid
  | magicLinkInvalid
  | dobAlreadySet
  | weakPassword
  | guardianRightsExpired
  | mergeConflict
  | mergeRefused
  | agentLimitReached
  | agentsDisabled
  | agentOAuthGrant
  | agentOAuthRevision
  | agentMachineChallengeLimit
  | oauthClientRevision
  | agentOAuthReauthenticationRequired
  | agentOAuthDisabled
  | emailVerificationRequired
  | idvRequired
  | dobRequired
  | accessNotAllowed
  | productAgeRestricted
  | accountLocked
  | agentSignIn
  | agentCredential
  | anonymousMustUpgrade
  | notAnonymous
  | anonymousRefreshDisabled
  | smsDisabled
  | phoneAlreadyVerified
  | minorDataMinimized
  | lastOwner
  | memberSuspended
  | removedFromTenant
  | invitationLimited
  | invitationResendTooSoon
  | inviterLimited
  | invitationRecipientLimited
  | domainAttemptsLimited
  | unimplemented
  | hireGrantRefused
  | teammateKeyConflict
  | teammateKeyChallengeLimit
  | tenantStatusConflict
  | tenantStatusChanged
deriving DecidableEq, Repr

/-- An error value. `wrapped` is `fmt.Errorf("%w: detail", cause)`, `prefixed` is
    `fmt.Errorf("what: %w", cause)` and `quoted` is `fmt.Errorf("what %q: %w", value, cause)`;
    `text` wraps no sentinel. -/
inductive Err where
  | sentinel (cause : Sentinel)
  | wrapped (cause : Sentinel) (detail : String)
  | prefixed (what : String) (cause : Sentinel)
  | quoted (what value : String) (cause : Sentinel)
  | text (message : String)
deriving DecidableEq, Repr

/-- `errors.Is`. -/
def Err.is (err : Err) (target : Sentinel) : Bool :=
  match err with
  | .sentinel cause => cause == target
  | .wrapped cause _ => cause == target
  | .prefixed _ cause => cause == target
  | .quoted _ _ cause => cause == target
  | .text _ => false

end identity.service
