import SeviriScene.Bytes.BigEndian
import SeviriScene.Bytes.Hex
import SeviriScene.Decimal.Shortest
import SeviriScene.Decimal.Style
import SeviriScene.Text.CaseMap
import SeviriScene.Text.Blank
import SeviriScene.Text.Utf8
import SeviriScene.Text.Integer
import SeviriScene.Text.Record
import SeviriScene.Text.RecordMap
import SeviriScene.Time.Civil
import SeviriScene.Time.Instant
import SeviriScene.Time.Cds
import SeviriScene.Calibration.Level
import SeviriScene.Calibration.Mode
import SeviriScene.Calibration.Constants
import SeviriScene.Calibration.Radiometry
import SeviriScene.Band.Channel
import SeviriScene.Band.ChannelSet
import SeviriScene.Platform
import SeviriScene.Fault
import SeviriScene.Sample.Packing
import SeviriScene.File.SubRecord
import SeviriScene.File.Header
import SeviriScene.File.Trailer
import SeviriScene.File.LineHeader
import SeviriScene.File.Layout
import SeviriScene.File.DataBlock
import SeviriScene.File.Writer
import SeviriScene.Geo.Projection
import SeviriScene.Geo.Extent
import SeviriScene.Geo.Area
import SeviriScene.Reader.Config
import SeviriScene.Reader.Scene
import SeviriScene.Proofs.Outcome
import SeviriScene.Proofs.ByteFields
import SeviriScene.Proofs.CdsCodec
import SeviriScene.Proofs.CdsDomain
import SeviriScene.Proofs.Layout
import SeviriScene.Proofs.SizeCheck
import SeviriScene.Proofs.Packing
import SeviriScene.Proofs.DataBlock
import SeviriScene.Proofs.Tiling
import SeviriScene.Proofs.ChunkedRead
import SeviriScene.Proofs.TextField
import SeviriScene.Proofs.DecimalText
import SeviriScene.Proofs.RecordTable
import SeviriScene.Proofs.HeaderCodec
import SeviriScene.Proofs.OpenFile
import SeviriScene.Proofs.Resolve
import SeviriScene.Proofs.ChannelSelection
import SeviriScene.Proofs.WholeFile
import SeviriScene.Proofs.SampleCodec
import SeviriScene.Proofs.AreaDefinition
import SeviriScene.Proofs.DatasetCalibration
