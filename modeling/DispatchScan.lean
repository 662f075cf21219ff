import DispatchScan.Main
import DispatchScan.Service.Router
import DispatchScan.Proofs.Abi.Grammar
import DispatchScan.Proofs.Abi.RoundTrip
import DispatchScan.Proofs.Assessment.Report
import DispatchScan.Proofs.Dispatch.Check
import DispatchScan.Proofs.FrontEnds
import DispatchScan.Proofs.Dispatch.Position
import DispatchScan.Proofs.Dispatch.Instruction
import DispatchScan.Proofs.CommandLine.Printing
import DispatchScan.Proofs.Assessment.Rows
import DispatchScan.Proofs.CommandLine.Completion
import DispatchScan.Proofs.CommandLine.Listing
import DispatchScan.Proofs.Service.Listing
import DispatchScan.Proofs.Views
import DispatchScan.Proofs.Address
import DispatchScan.Proofs.Dispatch.Context
import DispatchScan.Proofs.Dispatch.Strategy
import DispatchScan.Proofs.Abi.Construction
import DispatchScan.Proofs.Assessment.Selectors
import DispatchScan.Proofs.Declaration.Signature
import DispatchScan.Proofs.Selector.Spelling
import DispatchScan.Proofs.Selector.Order
import DispatchScan.Proofs.Config
import DispatchScan.Proofs.Dispatch.Search
