import SecureElement.Bus
import SecureElement.Bytes
import SecureElement.Chip
import SecureElement.Chip.Store
import SecureElement.CipherSuite
import SecureElement.Command
import SecureElement.Config
import SecureElement.Config.Document
import SecureElement.Crc
import SecureElement.Crypto.Aes
import SecureElement.Crypto.Ccm
import SecureElement.Crypto.CounterMode
import SecureElement.Crypto.Ed25519
import SecureElement.Crypto.Field128
import SecureElement.Crypto.Field25519
import SecureElement.Crypto.Gcm
import SecureElement.Crypto.Hkdf
import SecureElement.Crypto.Sha2
import SecureElement.Crypto.X25519
import SecureElement.Device
import SecureElement.Dongle
import SecureElement.Dongle.ScriptedLine
import SecureElement.Dongle.Serial
import SecureElement.Error
import SecureElement.Frame
import SecureElement.Handshake
import SecureElement.Handshake.KeySchedule
import SecureElement.Hex
import SecureElement.Info
import SecureElement.Json
import SecureElement.Link
import SecureElement.PairingSlot
import SecureElement.Primitives
import SecureElement.Primitives.Standard
import SecureElement.Proofs.Actions
import SecureElement.Proofs.Agreement
import SecureElement.Proofs.Answers
import SecureElement.Proofs.Arrival
import SecureElement.Proofs.Attempts
import SecureElement.Proofs.Authorship
import SecureElement.Proofs.Busy
import SecureElement.Proofs.ByteStrings
import SecureElement.Proofs.Certificates
import SecureElement.Proofs.Changes
import SecureElement.Proofs.Checked.Access
import SecureElement.Proofs.Checked.Chip
import SecureElement.Proofs.Checked.Command
import SecureElement.Proofs.Checked.Device
import SecureElement.Proofs.Checked.Execution
import SecureElement.Proofs.Checked.Frames
import SecureElement.Proofs.Checked.Link
import SecureElement.Proofs.Checked.Requests
import SecureElement.Proofs.Checked.Session
import SecureElement.Proofs.Checked.Store
import SecureElement.Proofs.Checksum
import SecureElement.Proofs.Codec
import SecureElement.Proofs.Collecting
import SecureElement.Proofs.Commands
import SecureElement.Proofs.Contracts
import SecureElement.Proofs.Coupling
import SecureElement.Proofs.Coupling.Device
import SecureElement.Proofs.Cuttings
import SecureElement.Proofs.Damage
import SecureElement.Proofs.Deeds
import SecureElement.Proofs.Delivery
import SecureElement.Proofs.Discipline
import SecureElement.Proofs.Dongle.Bridge
import SecureElement.Proofs.Dongle.Codec
import SecureElement.Proofs.Dongle.Digits
import SecureElement.Proofs.Dongle.Leftovers
import SecureElement.Proofs.Effects
import SecureElement.Proofs.Entries
import SecureElement.Proofs.Establishment
import SecureElement.Proofs.Exchange
import SecureElement.Proofs.Exposure
import SecureElement.Proofs.Faults
import SecureElement.Proofs.Frames
import SecureElement.Proofs.Framing
import SecureElement.Proofs.Handshakes
import SecureElement.Proofs.Histories
import SecureElement.Proofs.Inputs
import SecureElement.Proofs.Lifecycle
import SecureElement.Proofs.Lockstep
import SecureElement.Proofs.Nonces
import SecureElement.Proofs.Operations
import SecureElement.Proofs.Outcomes
import SecureElement.Proofs.Pairings
import SecureElement.Proofs.Patterns
import SecureElement.Proofs.Phases
import SecureElement.Proofs.Polls
import SecureElement.Proofs.Reassembly
import SecureElement.Proofs.Recovery
import SecureElement.Proofs.Refusals
import SecureElement.Proofs.Remainders
import SecureElement.Proofs.Replies
import SecureElement.Proofs.Residue
import SecureElement.Proofs.Resilience
import SecureElement.Proofs.Responses
import SecureElement.Proofs.Results
import SecureElement.Proofs.Retries
import SecureElement.Proofs.Runs
import SecureElement.Proofs.Safety
import SecureElement.Proofs.Sealing
import SecureElement.Proofs.Service
import SecureElement.Proofs.Takeover
import SecureElement.Proofs.Taps
import SecureElement.Proofs.Transcripts
import SecureElement.Proofs.Transparency
import SecureElement.Proofs.Trials
import SecureElement.Proofs.Unseen
import SecureElement.Proofs.Uses
import SecureElement.Proofs.Vault
import SecureElement.Proofs.Wire
import SecureElement.RandomSource
import SecureElement.ResultCode
import SecureElement.Session
import SecureElement.Status
import SecureElement.Transport
import SecureElement.Transport.Script
import SecureElement.Transport.Traced
