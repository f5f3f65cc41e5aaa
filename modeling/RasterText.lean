import RasterText.CommandLine.Arguments
import RasterText.CommandLine.Run
import RasterText.Format.Opener
import RasterText.Proofs.Canonical
import RasterText.Proofs.SinglePass
import RasterText.Proofs.Files
import RasterText.Proofs.Running
import RasterText.Proofs.Tilings
import RasterText.Proofs.LineEquality
import RasterText.Proofs.AlphaRuns
import RasterText.Proofs.Translation
import RasterText.Proofs.Stretching
import RasterText.Proofs.Cropping
import RasterText.Proofs.LineShape
import RasterText.Proofs.NoColumns
import RasterText.Proofs.ShortScales
import RasterText.Proofs.SamplingErrors
import RasterText.Proofs.TokenCode
