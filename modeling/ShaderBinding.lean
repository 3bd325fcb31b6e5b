import ShaderBinding.CommandLine.Console
import ShaderBinding.Main
import ShaderBinding.Proofs.Dispatch.ReadBack
import ShaderBinding.Proofs.Table.Deliveries
import ShaderBinding.Proofs.Table.Texts
import ShaderBinding.Proofs.Json.Continuation
import ShaderBinding.Proofs.Table.BrokenStreams
import ShaderBinding.Proofs.Json.Locality
import ShaderBinding.Proofs.Json.Truncation
import ShaderBinding.Proofs.Table.Truncation
import ShaderBinding.Proofs.Artifact.Runs
import ShaderBinding.Proofs.CommandLine.Spellings
import ShaderBinding.Proofs.CommandLine.Runs
import ShaderBinding.Proofs.Table.ValidTexts
import ShaderBinding.Proofs.Binary64.Scaling
import ShaderBinding.Proofs.Table.Mended
import ShaderBinding.Proofs.Artifact.Symbols
import ShaderBinding.Proofs.Artifact.Parts
import ShaderBinding.Proofs.Artifact.Repetition
import ShaderBinding.Proofs.CommandLine.Logging
import ShaderBinding.Proofs.Dispatch.Branches
import ShaderBinding.Proofs.Dispatch.SameText
import ShaderBinding.Proofs.Table.Places
import ShaderBinding.Proofs.Error.Messages
import ShaderBinding.Proofs.Record.Summary
import ShaderBinding.Proofs.Artifact.Storage
import ShaderBinding.Proofs.Artifact.Account
