import TokenBridge.Proofs.Configuration
import TokenBridge.Proofs.Pause
import TokenBridge.Proofs.PayoutTerms
import TokenBridge.Proofs.Recipient
import TokenBridge.Proofs.Report
import TokenBridge.Reviewer.Review
import TokenBridge.Session
import TokenBridge.Wire.Reading
import TokenBridge.Wire.Writing
import TokenBridge.Proofs.Preimages
import TokenBridge.Proofs.Spelling
import TokenBridge.Proofs.DepositTerms
import TokenBridge.Proofs.Roles
import TokenBridge.Proofs.ReviewOrder
import TokenBridge.Proofs.Rescaling
import TokenBridge.Proofs.FeeArithmetic
import TokenBridge.Proofs.AccountWords
import TokenBridge.Proofs.ReviewerConfig
