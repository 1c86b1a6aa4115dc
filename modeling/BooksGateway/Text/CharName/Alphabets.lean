/-!
# Names of letters of alphabets

The names of the first alphabets: Latin, Greek, Cyrillic, Armenian, Hebrew, Arabic and their
neighbours. Each row has the first character and the names from it on, as
`BooksGateway.Text.CharName` reads them.
-/

namespace BooksGateway.Text.CharName

/-- The names from U+0000 to U+07FF, in rows. -/
def alphabets : List (Nat × String) := [
  (0x20, "aSPACEaEXCLAMATION MARKaQUOTATIONnaNUMBER SIGNaDOLLARnaPERCENTnaAMPERSANDaAPOSTROPHE"),
  (0x28, "aLEFT PARENTHESISaRIGHTnaASTERISKaPLUS SIGNaCOMMAaHYPHEN-MINUSaFULL STOPaSOLIDUS"),
  (0x30, "aDIGIT ZERObONEbTWObTHREEbFOURbFIVEbSIXbSEVENbEIGHTbNINEaCOLONaSEMICOLONaLESS-THAN SIGN"),
  (0x3D, "aEQUALSnaGREATER-THANnaQUESTION MARKaCOMMERCIAL ATaLATIN CAPITAL LETTER AdBdCdDdEdFdGdH"),
  (0x49, "dIdJdKdLdMdNdOdPdQdRdSdTdUdVdWdXdYdZaLEFT SQUARE BRACKETaREVERSE SOLIDUS"),
  (0x5D, "aRIGHT SQUARE BRACKETaCIRCUMFLEX ACCENTaLOW LINEaGRAVE ACCENTaLATIN SMALL LETTER AdBdC"),
  (0x64, "dDdEdFdGdHdIdJdKdLdMdNdOdPdQdRdSdTdUdVdWdXdYdZaLEFT CURLY BRACKETaVERTICAL LINE"),
  (0x7D, "aRIGHT CURLY BRACKETaTILDE"),
  (0xA0, "aNO-BREAK SPACEaINVERTED EXCLAMATION MARKaCENT SIGNaPOUNDnaCURRENCYnaYENnaBROKEN BAR"),
  (0xA7, "aSECTION SIGNaDIAERESISaCOPYRIGHT SIGNaFEMININE ORDINAL INDICATOR"),
  (0xAB, "aLEFT-POINTING DOUBLE ANGLE QUOTATION MARKaNOT SIGNaSOFT HYPHENaREGISTERED SIGNaMACRON"),
  (0xB0, "aDEGREE SIGNaPLUS-MINUSnaSUPERSCRIPT TWObTHREEaACUTE ACCENTaMICRO SIGNaPILCROWn"),
  (0xB7, "aMIDDLE DOTaCEDILLAaSUPERSCRIPT ONEaMASCULINE ORDINAL INDICATOR"),
  (0xBB, "aRIGHT-POINTING DOUBLE ANGLE QUOTATION MARKaVULGAR FRACTION ONE QUARTERdHALF"),
  (0xBE, "cTHREE QUARTERSaINVERTED QUESTION MARKaLATIN CAPITAL LETTER A WITH GRAVEfACUTE"),
  (0xC2, "fCIRCUMFLEXfTILDEfDIAERESISfRING ABOVEdAEdC WITH CEDILLAdE WITH GRAVEfACUTEfCIRCUMFLEX"),
  (0xCB, "fDIAERESISdI WITH GRAVEfACUTEfCIRCUMFLEXfDIAERESISdETHdN WITH TILDEdO WITH GRAVEfACUTE"),
  (0xD4, "fCIRCUMFLEXfTILDEfDIAERESISaMULTIPLICATION SIGNaLATIN CAPITAL LETTER O WITH STROKE"),
  (0xD9, "dU WITH GRAVEfACUTEfCIRCUMFLEXfDIAERESISdY WITH ACUTEdTHORNbSMALL LETTER SHARP S"),
  (0xE0, "dA WITH GRAVEfACUTEfCIRCUMFLEXfTILDEfDIAERESISfRING ABOVEdAEdC WITH CEDILLA"),
  (0xE8, "dE WITH GRAVEfACUTEfCIRCUMFLEXfDIAERESISdI WITH GRAVEfACUTEfCIRCUMFLEXfDIAERESISdETH"),
  (0xF1, "dN WITH TILDEdO WITH GRAVEfACUTEfCIRCUMFLEXfTILDEfDIAERESISaDIVISION SIGN"),
  (0xF8, "aLATIN SMALL LETTER O WITH STROKEdU WITH GRAVEfACUTEfCIRCUMFLEXfDIAERESISdY WITH ACUTE"),
  (0xFE, "dTHORNdY WITH DIAERESISbCAPITAL LETTER A WITH MACRONbSMALLqbCAPITAL LETTER A WITH BREVE"),
  (0x103, "bSMALLqbCAPITAL LETTER A WITH OGONEKbSMALLqbCAPITAL LETTER C WITH ACUTEbSMALLq"),
  (0x108, "bCAPITAL LETTER C WITH CIRCUMFLEXbSMALLqbCAPITAL LETTER C WITH DOT ABOVEbSMALLr"),
  (0x10C, "bCAPITAL LETTER C WITH CARONbSMALLqbCAPITAL LETTER DobSMALLq"),
  (0x110, "bCAPITAL LETTER D WITH STROKEbSMALLqbCAPITAL LETTER E WITH MACRONbSMALLq"),
  (0x114, "bCAPITAL LETTER E WITH BREVEbSMALLqbCAPITAL LETTER E WITH DOT ABOVEbSMALLr"),
  (0x118, "bCAPITAL LETTER E WITH OGONEKbSMALLqbCAPITAL LETTER E WITH CARONbSMALLq"),
  (0x11C, "bCAPITAL LETTER G WITH CIRCUMFLEXbSMALLqbCAPITAL LETTER G WITH BREVEbSMALLq"),
  (0x120, "bCAPITAL LETTER G WITH DOT ABOVEbSMALLrbCAPITAL LETTER G WITH CEDILLAbSMALLq"),
  (0x124, "bCAPITAL LETTER H WITH CIRCUMFLEXbSMALLqbCAPITAL LETTER H WITH STROKEbSMALLq"),
  (0x128, "bCAPITAL LETTER I WITH TILDEbSMALLqbCAPITAL LETTER I WITH MACRONbSMALLq"),
  (0x12C, "bCAPITAL LETTER I WITH BREVEbSMALLqbCAPITAL LETTER I WITH OGONEKbSMALLq"),
  (0x130, "bCAPITAL LETTER I WITH DOT ABOVEbSMALL LETTER DOTLESS IbCAPITAL LIGATURE IJbSMALLo"),
  (0x134, "bCAPITAL LETTER J WITH CIRCUMFLEXbSMALLqbCAPITAL LETTER K WITH CEDILLAbSMALLqdKRA"),
  (0x139, "bCAPITAL LETTER L WITH ACUTEbSMALLqbCAPITAL LETTER L WITH CEDILLAbSMALLq"),
  (0x13D, "bCAPITAL LETTER L WITH CARONbSMALLqbCAPITAL LETTER L WITH MIDDLE DOTbSMALLr"),
  (0x141, "bCAPITAL LETTER L WITH STROKEbSMALLqbCAPITAL LETTER N WITH ACUTEbSMALLq"),
  (0x145, "bCAPITAL LETTER N WITH CEDILLAbSMALLqbCAPITAL LETTER N WITH CARONbSMALLq"),
  (0x149, "ePRECEDED BY APOSTROPHEbCAPITAL LETTER ENGbSMALLobCAPITAL LETTER O WITH MACRONbSMALLq"),
  (0x14E, "bCAPITAL LETTER O WITH BREVEbSMALLqbCAPITAL LETTER O WITH DOUBLE ACUTEbSMALLr"),
  (0x152, "bCAPITAL LIGATURE OEbSMALLobCAPITAL LETTER R WITH ACUTEbSMALLq"),
  (0x156, "bCAPITAL LETTER R WITH CEDILLAbSMALLqbCAPITAL LETTER R WITH CARONbSMALLq"),
  (0x15A, "bCAPITAL LETTER S WITH ACUTEbSMALLqbCAPITAL LETTER S WITH CIRCUMFLEXbSMALLq"),
  (0x15E, "bCAPITAL LETTER S WITH CEDILLAbSMALLqbCAPITAL LETTER S WITH CARONbSMALLq"),
  (0x162, "bCAPITAL LETTER T WITH CEDILLAbSMALLqbCAPITAL LETTER T WITH CARONbSMALLq"),
  (0x166, "bCAPITAL LETTER T WITH STROKEbSMALLqbCAPITAL LETTER U WITH TILDEbSMALLq"),
  (0x16A, "bCAPITAL LETTER U WITH MACRONbSMALLqbCAPITAL LETTER U WITH BREVEbSMALLq"),
  (0x16E, "bCAPITAL LETTER U WITH RING ABOVEbSMALLrbCAPITAL LETTER U WITH DOUBLE ACUTEbSMALLr"),
  (0x172, "bCAPITAL LETTER U WITH OGONEKbSMALLqbCAPITAL LETTER W WITH CIRCUMFLEXbSMALLq"),
  (0x176, "bCAPITAL LETTER YobSMALLqbCAPITAL LETTER Y WITH DIAERESISdZ WITH ACUTEbSMALLq"),
  (0x17B, "bCAPITAL LETTER Z WITH DOT ABOVEbSMALLrbCAPITAL LETTER Z WITH CARONbSMALLqdLONG S"),
  (0x180, "dB WITH STROKEbCAPITAL LETTER B WITH HOOKfTOPBARbSMALLqbCAPITAL LETTER TONE SIXbSMALLp"),
  (0x186, "bCAPITAL LETTER OPEN OdC WITH HOOKbSMALLqbCAPITAL LETTER AFRICAN DdD WITH HOOKfTOPBAR"),
  (0x18C, "bSMALLqdTURNED DELTAbCAPITAL LETTER REVERSED EdSCHWAdOPEN EdF WITH HOOKbSMALLq"),
  (0x193, "bCAPITAL LETTER GodGAMMAbSMALL LETTER HVbCAPITAL LETTER IOTAdI WITH STROKEdK WITH HOOK"),
  (0x199, "bSMALLqdL WITH BARdLAMBDA WITH STROKEbCAPITAL LETTER TURNED MdN WITH LEFT HOOK"),
  (0x19E, "bSMALL LETTER N WITH LONG RIGHT LEGbCAPITAL LETTER O WITH MIDDLE TILDEfHORNbSMALLq"),
  (0x1A2, "bCAPITAL LETTER OIbSMALLobCAPITAL LETTER P WITH HOOKbSMALLqbLETTER YR"),
  (0x1A7, "bCAPITAL LETTER TONE TWObSMALLpbCAPITAL LETTER ESHbLETTER REVERSED ESH LOOP"),
  (0x1AB, "bSMALL LETTER T WITH PALATAL HOOKbCAPITAL LETTER T WITHnbSMALLq"),
  (0x1AE, "bCAPITAL LETTER T WITH RETROFLEXndU WITH HORNbSMALLqbCAPITAL LETTER UPSILON"),
  (0x1B2, "dV WITH HOOKdYobSMALLqbCAPITAL LETTER Z WITH STROKEbSMALLqbCAPITAL LETTER EZHeREVERSED"),
  (0x1B9, "bSMALLpeWITH TAILbLETTER TWO WITH STROKEbCAPITAL LETTER TONE FIVEbSMALLp"),
  (0x1BE, "bLETTER INVERTED GLOTTAL STOP WITH STROKEcWYNNcDENTAL CLICKcLATERALncALVEOLARn"),
  (0x1C3, "cRETROFLEXnbCAPITAL LETTER DZ WITH CARONdD WITH SMALL LETTER ZobSMALL LETTER DZo"),
  (0x1C7, "bCAPITAL LETTER LJdL WITH SMALL LETTER JbSMALL LETTER LJbCAPITAL LETTER NJ"),
  (0x1CB, "dN WITH SMALL LETTER JbSMALL LETTER NJbCAPITAL LETTER A WITH CARONbSMALLq"),
  (0x1CF, "bCAPITAL LETTER IobSMALLqbCAPITAL LETTER OobSMALLqbCAPITAL LETTER UobSMALLq"),
  (0x1D5, "bCAPITAL LETTER U WITH DIAERESIS AND MACRONbSMALLs"),
  (0x1D7, "bCAPITAL LETTER U WITH DIAERESIS AND ACUTEbSMALLs"),
  (0x1D9, "bCAPITAL LETTER U WITH DIAERESIS AND CARONbSMALLs"),
  (0x1DB, "bCAPITAL LETTER U WITH DIAERESIS AND GRAVEbSMALLsdTURNED E"),
  (0x1DE, "bCAPITAL LETTER A WITH DIAERESIS AND MACRONbSMALLsbCAPITAL LETTER A WITH DOT ABOVEo"),
  (0x1E1, "bSMALLtbCAPITAL LETTER AE WITHnbSMALLqbCAPITAL LETTER G WITH STROKEbSMALLq"),
  (0x1E6, "bCAPITAL LETTER G WITH CARONbSMALLqbCAPITAL LETTER KobSMALLq"),
  (0x1EA, "bCAPITAL LETTER O WITH OGONEKbSMALLqbCAPITAL LETTER O WITH OGONEK AND MACRONbSMALLs"),
  (0x1EE, "bCAPITAL LETTER EZH WITH CARONbSMALLqdJobCAPITAL LETTER DZdD WITH SMALL LETTER Z"),
  (0x1F3, "bSMALL LETTER DZbCAPITAL LETTER G WITH ACUTEbSMALLqbCAPITAL LETTER HWAIRdWYNN"),
  (0x1F8, "dN WITH GRAVEbSMALLqbCAPITAL LETTER A WITH RING ABOVE AND ACUTEbSMALLt"),
  (0x1FC, "bCAPITAL LETTER AE WITHnbSMALLqbCAPITAL LETTER O WITH STROKE ANDnbSMALLs"),
  (0x200, "bCAPITAL LETTER A WITH DOUBLE GRAVEbSMALLrbCAPITAL LETTER A WITH INVERTED BREVEbSMALLr"),
  (0x204, "bCAPITAL LETTER E WITH DOUBLE GRAVEbSMALLrbCAPITAL LETTER E WITH INVERTED BREVEbSMALLr"),
  (0x208, "bCAPITAL LETTER I WITH DOUBLE GRAVEbSMALLrbCAPITAL LETTER I WITH INVERTED BREVEbSMALLr"),
  (0x20C, "bCAPITAL LETTER O WITH DOUBLE GRAVEbSMALLrbCAPITAL LETTER O WITH INVERTED BREVEbSMALLr"),
  (0x210, "bCAPITAL LETTER R WITH DOUBLE GRAVEbSMALLrbCAPITAL LETTER R WITH INVERTED BREVEbSMALLr"),
  (0x214, "bCAPITAL LETTER U WITH DOUBLE GRAVEbSMALLrbCAPITAL LETTER U WITH INVERTED BREVEbSMALLr"),
  (0x218, "bCAPITAL LETTER S WITH COMMA BELOWbSMALLrbCAPITAL LETTER TpbSMALLrbCAPITAL LETTER YOGH"),
  (0x21D, "bSMALLobCAPITAL LETTER H WITH CARONbSMALLqbCAPITAL LETTER N WITH LONG RIGHT LEG"),
  (0x221, "bSMALL LETTER D WITH CURLbCAPITAL LETTER OUbSMALLobCAPITAL LETTER Z WITH HOOKbSMALLq"),
  (0x226, "bCAPITAL LETTER A WITH DOT ABOVEbSMALLrbCAPITAL LETTER E WITH CEDILLAbSMALLq"),
  (0x22A, "bCAPITAL LETTER O WITH DIAERESIS AND MACRONbSMALLsbCAPITAL LETTER O WITH TILDEobSMALLs"),
  (0x22E, "bCAPITAL LETTER O WITH DOT ABOVEbSMALLrbCAPITAL LETTER O WITH DOT ABOVE AND MACRON"),
  (0x231, "bSMALLtbCAPITAL LETTER Y WITHnbSMALLqdL WITH CURLdNodTodDOTLESS JdDB DIGRAPHdQPn"),
  (0x23A, "bCAPITAL LETTER A WITH STROKEdCobSMALLqbCAPITAL LETTER L WITH BAR"),
  (0x23E, "dT WITH DIAGONAL STROKEbSMALL LETTER S WITH SWASH TAILdZpbCAPITAL LETTER GLOTTAL STOP"),
  (0x242, "bSMALLpbCAPITAL LETTER B WITH STROKEdU BARdTURNED VdE WITH STROKEbSMALLq"),
  (0x248, "bCAPITAL LETTER JobSMALLqbCAPITAL LETTER SMALL Q WITH HOOK TAILbSMALL LETTERq"),
  (0x24C, "bCAPITAL LETTER R WITH STROKEbSMALLqbCAPITAL LETTER YobSMALLqdTURNED AdALPHAdTURNEDn"),
  (0x253, "dB WITH HOOKdOPEN OdC WITH CURLdD WITH TAILfHOOKdREVERSED EdSCHWAeWITH HOOKdOPEN E"),
  (0x25C, "dREVERSEDogWITH HOOKdCLOSED REVERSED OPEN EdDOTLESS J WITH STROKEdG WITH HOOKdSCRIPT G"),
  (0x262, "bLETTER SMALL CAPITALnbSMALL LETTER GAMMAdRAMS HORNdTURNED HdH WITH HOOKdHENGo"),
  (0x268, "dI WITH STROKEdIOTAbLETTER SMALL CAPITAL IbSMALL LETTER L WITH MIDDLE TILDEfBELT"),
  (0x26D, "fRETROFLEX HOOKdLEZHdTURNED MfWITH LONG LEGdM WITH HOOKdN WITH LEFTnfRETROFLEXn"),
  (0x274, "bLETTER SMALL CAPITAL NbSMALL LETTER BARRED ObLETTER SMALL CAPITAL OE"),
  (0x277, "bSMALL LETTER CLOSED OMEGAdPHIdTURNED RfWITH LONG LEGgHOOKdR WITH LONG LEGfTAIL"),
  (0x27E, "fFISHHOOKdREVERSEDpbLETTER SMALL CAPITAL ReINVERTEDnbSMALL LETTER S WITH HOOKdESH"),
  (0x284, "dDOTLESS J WITH STROKE AND HOOKdSQUAT REVERSED ESHdESH WITH CURLdTURNED T"),
  (0x288, "dT WITH RETROFLEX HOOKdU BARdUPSILONdV WITH HOOKdTURNED VeWeYbLETTER SMALL CAPITALn"),
  (0x290, "bSMALL LETTER Z WITH RETROFLEX HOOKfCURLdEZHeWITH CURLbLETTER GLOTTAL STOP"),
  (0x295, "cPHARYNGEAL VOICED FRICATIVEcINVERTED GLOTTAL STOPcSTRETCHED CcBILABIAL CLICK"),
  (0x299, "cSMALL CAPITAL BbSMALL LETTER CLOSED OPEN EbLETTER SMALL CAPITAL G WITH HOOKeH"),
  (0x29D, "bSMALL LETTER J WITH CROSSED-TAILdTURNED KbLETTER SMALL CAPITAL L"),
  (0x2A0, "bSMALL LETTER Q WITH HOOKbLETTER GLOTTAL STOP WITH STROKEcREVERSEDq"),
  (0x2A3, "bSMALL LETTER DZ DIGRAPHdDEZHndDZ DIGRAPH WITH CURLdTS DIGRAPHdTESHn"),
  (0x2A8, "dTC DIGRAPH WITH CURLdFENG DIGRAPHdLSndLZnbLETTER BILABIAL PERCUSSIVEcBIDENTALn"),
  (0x2AE, "bSMALL LETTER TURNED H WITH FISHHOOKhAND TAILaMODIFIER LETTER SMALL HeWITH HOOKdJdR"),
  (0x2B4, "dTURNEDnfWITH HOOKdCAPITAL INVERTED RdWdYcPRIMEcDOUBLEncTURNED COMMAcAPOSTROPHE"),
  (0x2BD, "cREVERSED COMMAcRIGHT HALF RINGcLEFTocGLOTTAL STOPcREVERSEDocLEFT ARROWHEADcRIGHTncUPn"),
  (0x2C5, "cDOWNncCIRCUMFLEX ACCENTaCARONaMODIFIER LETTER VERTICAL LINEcMACRONcACUTE ACCENT"),
  (0x2CB, "cGRAVEncLOW VERTICAL LINEdMACRONdGRAVE ACCENTdACUTEncTRIANGULAR COLONcHALFo"),
  (0x2D2, "cCENTRED RIGHT HALF RINGdLEFTocUP TACKcDOWNncPLUS SIGNcMINUSnaBREVEaDOT ABOVEaRINGn"),
  (0x2DB, "aOGONEKaSMALL TILDEaDOUBLE ACUTE ACCENTaMODIFIER LETTER RHOTIC HOOKcCROSS ACCENT"),
  (0x2E0, "cSMALL GAMMAdLdSdXdREVERSED GLOTTAL STOPcEXTRA-HIGH TONE BARcHIGHocMIDocLOWo"),
  (0x2E9, "cEXTRA-LOWocYIN DEPARTING TONE MARKcYANGpcVOICINGcUNASPIRATEDcDOUBLE APOSTROPHE"),
  (0x2EF, "cLOW DOWN ARROWHEADdUPndLEFTndRIGHTndRINGcMIDDLE GRAVE ACCENTdDOUBLEoeACUTEncLOW TILDE"),
  (0x2F8, "cRAISED COLONcBEGIN HIGH TONEcENDocBEGIN LOWncENDocSHELFcOPENncLOW LEFT ARROW"),
  (0x300, "aCOMBINING GRAVE ACCENTbACUTEnbCIRCUMFLEXnbTILDEbMACRONbOVERLINEbBREVEbDOT ABOVE"),
  (0x308, "bDIAERESISbHOOK ABOVEbRINGnbDOUBLE ACUTE ACCENTbCARONbVERTICAL LINE ABOVEbDOUBLEp"),
  (0x30F, "cGRAVE ACCENTbCANDRABINDUbINVERTED BREVEbTURNED COMMA ABOVEbobREVERSEDo"),
  (0x315, "bCOMMA ABOVE RIGHTbGRAVE ACCENT BELOWbACUTEobLEFT TACKnbRIGHTobLEFT ANGLE ABOVEbHORN"),
  (0x31C, "bLEFT HALF RING BELOWbUP TACKnbDOWNobPLUS SIGNnbMINUSobPALATALIZED HOOKnbRETROFLEXo"),
  (0x323, "bDOTnbDIAERESISnbRINGnbCOMMAnbCEDILLAbOGONEKbVERTICAL LINE BELOWbBRIDGEn"),
  (0x32B, "bINVERTED DOUBLE ARCHnbCARONnbCIRCUMFLEX ACCENTnbBREVEnbINVERTEDobTILDEnbMACRONn"),
  (0x332, "bLOW LINEbDOUBLEobTILDE OVERLAYbSHORT STROKEnbLONGobSHORT SOLIDUSnbLONGo"),
  (0x339, "bRIGHT HALF RING BELOWbINVERTED BRIDGEnbSQUAREnbSEAGULLnbX ABOVEbVERTICAL TILDE"),
  (0x33F, "bDOUBLE OVERLINEbGRAVE TONE MARKbACUTEobGREEK PERISPOMENIcKORONIScDIALYTIKA TONOS"),
  (0x345, "cYPOGEGRAMMENIbBRIDGE ABOVEbEQUALS SIGN BELOWbDOUBLE VERTICAL LINEnbLEFT ANGLEn"),
  (0x34A, "bNOT TILDE ABOVEbHOMOTHETICnbALMOST EQUAL TOnbLEFT RIGHT ARROW BELOWbUPWARDSo"),
  (0x34F, "bGRAPHEME JOINERbRIGHT ARROWHEAD ABOVEbLEFT HALF RINGnbFERMATAbX BELOWbLEFT ARROWHEADn"),
  (0x355, "bRIGHTodAND UP ARROWHEADncHALF RING ABOVEbDOT ABOVE RIGHTbASTERISK BELOWbDOUBLE RINGn"),
  (0x35B, "bZIGZAG ABOVEbDOUBLE BREVE BELOWdcMACRONdBELOWcTILDEcINVERTED BREVE"),
  (0x362, "cRIGHTWARDS ARROW BELOWbLATIN SMALL LETTER AeEeIeOeUeCeDeHeMeReTeVeX"),
  (0x370, "aGREEK CAPITAL LETTER HETAbSMALLobCAPITAL LETTER ARCHAIC SAMPIbSMALLpbNUMERAL SIGN"),
  (0x375, "bLOWERobCAPITAL LETTER PAMPHYLIAN DIGAMMAbSMALLp"),
  (0x37A, "bYPOGEGRAMMENIbSMALL REVERSED LUNATE SIGMA SYMBOLcDOTTEDpcREVERSEDqbQUESTION MARK"),
  (0x37F, "bCAPITAL LETTER YOT"),
  (0x384, "bTONOSbDIALYTIKAnbCAPITAL LETTER ALPHA WITHnbANO TELEIA"),
  (0x388, "bCAPITAL LETTER EPSILON WITH TONOSdETAodIOTAo"),
  (0x38C, "dOMICRONo"),
  (0x38E, "dUPSILONodOMEGAobSMALL LETTER IOTA WITH DIALYTIKA ANDnbCAPITAL LETTER ALPHAdBETAdGAMMA"),
  (0x394, "dDELTAdEPSILONdZETAdETAdTHETAdIOTAdKAPPAdLAMDAdMUdNUdXIdOMICRONdPIdRHO"),
  (0x3A3, "dSIGMAdTAUdUPSILONdPHIdCHIdPSIdOMEGAdIOTA WITH DIALYTIKAdUPSILONo"),
  (0x3AC, "bSMALL LETTER ALPHA WITH TONOSdEPSILONodETAodIOTAodUPSILON WITH DIALYTIKA ANDndALPHA"),
  (0x3B2, "dBETAdGAMMAdDELTAdEPSILONdZETAdETAdTHETAdIOTAdKAPPAdLAMDAdMUdNUdXIdOMICRONdPIdRHO"),
  (0x3C2, "dFINAL SIGMAdndTAUdUPSILONdPHIdCHIdPSIdOMEGAdIOTA WITH DIALYTIKAdUPSILONo"),
  (0x3CC, "dOMICRON WITH TONOSdUPSILONodOMEGAobCAPITAL KAI SYMBOLbBETAnbTHETAnbUPSILON WITH HOOKn"),
  (0x3D3, "dACUTE ANDodDIAERESISpbPHInbPInbKAInbLETTER ARCHAIC KOPPAbSMALLpbLETTER STIGMAbSMALLo"),
  (0x3DC, "bLETTER DIGAMMAbSMALLobLETTER KOPPAbSMALLobLETTER SAMPIbSMALLo"),
  (0x3E2, "aCOPTIC CAPITAL LETTER SHEIbSMALLobCAPITAL LETTER FEIbSMALLobCAPITAL LETTER KHEI"),
  (0x3E7, "bSMALLobCAPITAL LETTER HORIbSMALLobCAPITAL LETTER GANGIAbSMALLobCAPITAL LETTER SHIMA"),
  (0x3ED, "bSMALLobCAPITAL LETTER DEIbSMALLoaGREEK KAPPA SYMBOLbRHOnbLUNATE SIGMAnbLETTER YOT"),
  (0x3F4, "bCAPITAL THETA SYMBOLbLUNATE EPSILONnbREVERSEDpbCAPITAL LETTER SHObSMALLo"),
  (0x3F9, "bCAPITAL LUNATE SIGMA SYMBOLcLETTER SANbSMALLobRHO WITH STROKE SYMBOL"),
  (0x3FD, "bCAPITAL REVERSED LUNATE SIGMAncDOTTEDpcREVERSEDq"),
  (0x400, "aCYRILLIC CAPITAL LETTER IE WITH GRAVEdIOdDJEdGJEdUKRAINIAN IEdDZE"),
  (0x406, "dBYELORUSSIAN-UKRAINIAN IdYIdJEdLJEdNJEdTSHEdKJEdI WITH GRAVEdSHORT UdDZHEdAdBEdVEdGHE"),
  (0x414, "dDEdIEdZHEdZEdIdSHORTndKAdELdEMdENdOdPEdERdESdTEdUdEFdHAdTSEdCHEdSHAdSHCHAdHARD SIGN"),
  (0x42B, "dYERUdSOFT SIGNdEdYUdYAbSMALL LETTER AdBEdVEdGHEdDEdIEdZHEdZEdIdSHORTndKAdELdEMdENdO"),
  (0x43F, "dPEdERdESdTEdUdEFdHAdTSEdCHEdSHAdSHCHAdHARD SIGNdYERUdSOFT SIGNdEdYUdYAdIE WITH GRAVE"),
  (0x451, "dIOdDJEdGJEdUKRAINIAN IEdDZEdBYELORUSSIAN-UKRAINIAN IdYIdJEdLJEdNJEdTSHEdKJE"),
  (0x45D, "dI WITH GRAVEdSHORT UdDZHEbCAPITAL LETTER OMEGAbSMALLobCAPITAL LETTER YATbSMALLo"),
  (0x464, "bCAPITAL LETTER IOTIFIED EbSMALLpbCAPITAL LETTER LITTLE YUSbSMALLp"),
  (0x468, "bCAPITAL LETTER IOTIFIEDobSMALLqbCAPITAL LETTER BIGnbSMALLpbCAPITAL LETTER IOTIFIEDo"),
  (0x46D, "bSMALLqbCAPITAL LETTER KSIbSMALLobCAPITAL LETTER PSIbSMALLobCAPITAL LETTER FITAbSMALLo"),
  (0x474, "bCAPITAL LETTER IZHITSAbSMALLobCAPITAL LETTER IZHITSA WITH DOUBLE GRAVE ACCENTbSMALLs"),
  (0x478, "bCAPITAL LETTER UKbSMALLobCAPITAL LETTER ROUND OMEGAbSMALLp"),
  (0x47C, "bCAPITAL LETTER OMEGA WITH TITLObSMALLqbCAPITAL LETTER OTbSMALLobCAPITAL LETTER KOPPA"),
  (0x481, "bSMALLobTHOUSANDS SIGNaCOMBINING CYRILLIC TITLOcPALATALIZATIONcDASIA PNEUMATAcPSILIn"),
  (0x487, "cPOKRYTIEcHUNDRED THOUSANDS SIGNcMILLIONSnaCYRILLIC CAPITAL LETTER SHORT I WITH TAIL"),
  (0x48B, "bSMALLrbCAPITAL LETTER SEMISOFT SIGNbSMALLpbCAPITAL LETTER ER WITH TICKbSMALLq"),
  (0x490, "bCAPITAL LETTER GHE WITH UPTURNbSMALLqbCAPITAL LETTER GHE WITH STROKEbSMALLq"),
  (0x494, "bCAPITAL LETTER GHE WITH MIDDLE HOOKbSMALLrbCAPITAL LETTER ZHE WITH DESCENDERbSMALLq"),
  (0x498, "bCAPITAL LETTER ZEobSMALLqbCAPITAL LETTER KAobSMALLq"),
  (0x49C, "bCAPITAL LETTER KA WITH VERTICAL STROKEbSMALLrbCAPITAL LETTER KA WITHnbSMALLq"),
  (0x4A0, "bCAPITAL LETTER BASHKIR KAbSMALLpbCAPITAL LETTER EN WITH DESCENDERbSMALLq"),
  (0x4A4, "bCAPITAL LIGATURE EN GHEbSMALLpbCAPITAL LETTER PE WITH MIDDLE HOOKbSMALLr"),
  (0x4A8, "bCAPITAL LETTER ABKHASIAN HAbSMALLpbCAPITAL LETTER ES WITH DESCENDERbSMALLq"),
  (0x4AC, "bCAPITAL LETTER TEobSMALLqbCAPITAL LETTER STRAIGHT UbSMALLp"),
  (0x4B0, "bCAPITAL LETTER STRAIGHT U WITH STROKEbSMALLrbCAPITAL LETTER HA WITH DESCENDERbSMALLq"),
  (0x4B4, "bCAPITAL LIGATURE TE TSEbSMALLpbCAPITAL LETTER CHE WITH DESCENDERbSMALLq"),
  (0x4B8, "bCAPITAL LETTER CHE WITH VERTICAL STROKEbSMALLrbCAPITAL LETTER SHHAbSMALLo"),
  (0x4BC, "bCAPITAL LETTER ABKHASIAN CHEbSMALLpbCAPITAL LETTER ABKHASIAN CHE WITH DESCENDER"),
  (0x4BF, "bSMALLrbLETTER PALOCHKAbCAPITAL LETTER ZHE WITH BREVEbSMALLq"),
  (0x4C3, "bCAPITAL LETTER KA WITH HOOKbSMALLqbCAPITAL LETTER EL WITH TAILbSMALLq"),
  (0x4C7, "bCAPITAL LETTER EN WITH HOOKbSMALLqbCAPITAL LETTER EN WITH TAILbSMALLq"),
  (0x4CB, "bCAPITAL LETTER KHAKASSIAN CHEbSMALLpbCAPITAL LETTER EM WITH TAILbSMALLqdPALOCHKA"),
  (0x4D0, "bCAPITAL LETTER A WITH BREVEbSMALLqbCAPITAL LETTER A WITH DIAERESISbSMALLq"),
  (0x4D4, "bCAPITAL LIGATURE A IEbSMALLpbCAPITAL LETTER IE WITH BREVEbSMALLqbCAPITAL LETTER SCHWA"),
  (0x4D9, "bSMALLobCAPITAL LETTER SCHWA WITH DIAERESISbSMALLqbCAPITAL LETTER ZHEobSMALLq"),
  (0x4DE, "bCAPITAL LETTER ZEobSMALLqbCAPITAL LETTER ABKHASIAN DZEbSMALLp"),
  (0x4E2, "bCAPITAL LETTER I WITH MACRONbSMALLqbCAPITAL LETTER I WITH DIAERESISbSMALLq"),
  (0x4E6, "bCAPITAL LETTER OobSMALLqbCAPITAL LETTER BARRED ObSMALLp"),
  (0x4EA, "bCAPITAL LETTER BARRED O WITH DIAERESISbSMALLrbCAPITAL LETTER EobSMALLq"),
  (0x4EE, "bCAPITAL LETTER U WITH MACRONbSMALLqbCAPITAL LETTER U WITH DIAERESISbSMALLq"),
  (0x4F2, "bCAPITAL LETTER U WITH DOUBLE ACUTEbSMALLrbCAPITAL LETTER CHE WITH DIAERESISbSMALLq"),
  (0x4F6, "bCAPITAL LETTER GHE WITH DESCENDERbSMALLqbCAPITAL LETTER YERU WITH DIAERESISbSMALLq"),
  (0x4FA, "bCAPITAL LETTER GHE WITH STROKE AND HOOKbSMALLsbCAPITAL LETTER HA WITHnbSMALLq"),
  (0x4FE, "bCAPITAL LETTER HA WITH STROKEbSMALLqbCAPITAL LETTER KOMI DEbSMALLp"),
  (0x502, "bCAPITAL LETTER KOMI DJEbSMALLpbCAPITAL LETTER KOMI ZJEbSMALLp"),
  (0x506, "bCAPITAL LETTER KOMI DZJEbSMALLpbCAPITAL LETTER KOMI LJEbSMALLp"),
  (0x50A, "bCAPITAL LETTER KOMI NJEbSMALLpbCAPITAL LETTER KOMI SJEbSMALLpbCAPITAL LETTER KOMI TJE"),
  (0x50F, "bSMALLpbCAPITAL LETTER REVERSED ZEbSMALLpbCAPITAL LETTER EL WITH HOOKbSMALLq"),
  (0x514, "bCAPITAL LETTER LHAbSMALLobCAPITAL LETTER RHAbSMALLobCAPITAL LETTER YAEbSMALLo"),
  (0x51A, "bCAPITAL LETTER QAbSMALLobCAPITAL LETTER WEbSMALLobCAPITAL LETTER ALEUT KAbSMALLp"),
  (0x520, "bCAPITAL LETTER EL WITH MIDDLE HOOKbSMALLrbCAPITAL LETTER ENpbSMALLr"),
  (0x524, "bCAPITAL LETTER PE WITH DESCENDERbSMALLqbCAPITAL LETTER SHHAobSMALLq"),
  (0x528, "bCAPITAL LETTER EN WITH LEFT HOOKbSMALLrbCAPITAL LETTER DZZHEbSMALLo"),
  (0x52C, "bCAPITAL LETTER DCHEbSMALLobCAPITAL LETTER EL WITH DESCENDERbSMALLq"),
  (0x531, "aARMENIAN CAPITAL LETTER AYBdBENdGIMdDAdECHdZAdEHdETdTOdZHEdINIdLIWNdXEHdCAdKENdHOdJA"),
  (0x542, "dGHADdCHEHdMENdYIdNOWdSHAdVOdCHAdPEHdJHEHdRAdSEHdVEWdTIWNdREHdCOdYIWNdPIWRdKEHdOHdFEH"),
  (0x559, "bMODIFIER LETTER LEFT HALF RINGbAPOSTROPHEbEMPHASIS MARKbEXCLAMATIONnbCOMMA"),
  (0x55E, "bQUESTION MARKbABBREVIATIONnbSMALL LETTER TURNED AYBdndBENdGIMdDAdECHdZAdEHdETdTOdZHE"),
  (0x56B, "dINIdLIWNdXEHdCAdKENdHOdJAdGHADdCHEHdMENdYIdNOWdSHAdVOdCHAdPEHdJHEHdRAdSEHdVEWdTIWN"),
  (0x580, "dREHdCOdYIWNdPIWRdKEHdOHdFEHcLIGATURE ECH YIWNcLETTER YI WITH STROKEbFULL STOPbHYPHEN"),
  (0x58D, "aRIGHT-FACING ARMENIAN ETERNITY SIGNaLEFT-FACINGpaARMENIAN DRAMn"),
  (0x591, "aHEBREW ACCENT ETNAHTAcSEGOLcSHALSHELETcZAQEF QATANdGADOLcTIPEHAcREVIAcZARQAcPASHTA"),
  (0x59A, "cYETIVcTEVIRcGERESHdMUQDAMcGERSHAYIMcQARNEY PARAcTELISHA GEDOLAcPAZERcATNAH HAFUKH"),
  (0x5A3, "cMUNAHcMAHAPAKHcMERKHAdKEFULAcDARGAcQADMAcTELISHA QETANAcYERAH BEN YOMOcOLEcILUYcDEHI"),
  (0x5AE, "cZINORbMARK MASORA CIRCLEbPOINT SHEVAcHATAF SEGOLdPATAHdQAMATScHIRIQcTSEREcSEGOLcPATAH"),
  (0x5B8, "cQAMATScHOLAMdHASER FOR VAVcQUBUTScDAGESH OR MAPIQcMETEGbPUNCTUATION MAQAFbPOINT RAFE"),
  (0x5C0, "bPUNCTUATION PASEQbPOINT SHIN DOTcSINnbPUNCTUATION SOF PASUQbMARK UPPER DOTcLOWERn"),
  (0x5C6, "bPUNCTUATION NUN HAFUKHAbPOINT QAMATS QATAN"),
  (0x5D0, "bLETTER ALEFcBETcGIMELcDALETcHEcVAVcZAYINcHETcTETcYODcFINAL KAFcncLAMEDcFINAL MEMcn"),
  (0x5DF, "cFINAL NUNcncSAMEKHcAYINcFINAL PEcncFINAL TSADIcncQOFcRESHcSHINcTAV"),
  (0x5EF, "bYOD TRIANGLEbLIGATURE YIDDISH DOUBLE VAVdVAV YODdDOUBLEnbPUNCTUATION GERESHcGERSHAYIM"),
  (0x600, "aARABIC NUMBER SIGNbSIGN SANAHbFOOTNOTE MARKERbSIGN SAFHAcSAMVATbNUMBER MARK ABOVE"),
  (0x606, "aARABIC-INDIC CUBE ROOTbFOURTHnaARABIC RAYaARABIC-INDIC PER MILLE SIGNcTEN THOUSANDn"),
  (0x60B, "aAFGHANInaARABIC COMMAbDATE SEPARATORbPOETIC VERSE SIGNbSIGN MISRA"),
  (0x610, "cSALLALLAHOU ALAYHE WASSALLAMcALAYHE ASSALLAMcRAHMATULLAH ALAYHEcRADI ALLAHOU ANHU"),
  (0x614, "cTAKHALLUSbSMALL HIGH TAHdLIGATURE ALEF WITH LAM WITH YEHdZAINcFATHAcDAMMAcKASRA"),
  (0x61B, "bSEMICOLONbLETTER MARKbEND OF TEXTnbTRIPLE DOT PUNCTUATIONnbQUESTIONn"),
  (0x620, "bLETTER KASHMIRI YEHcHAMZAcALEF WITH MADDA ABOVEeHAMZAncWAWpcALEF WITH HAMZA BELOW"),
  (0x626, "cYEH WITH HAMZA ABOVEcALEFcBEHcTEH MARBUTAdcTHEHcJEEMcHAHcKHAHcDALcTHALcREHcZAINcSEEN"),
  (0x634, "cSHEENcSADcDADcTAHcZAHcAINcGHAINcKEHEH WITH TWO DOTS ABOVEeTHREE DOTS BELOW"),
  (0x63D, "cFARSI YEH WITH INVERTED VfTWO DOTS ABOVEfTHREEobTATWEELbLETTER FEHcQAFcKAFcLAMcMEEM"),
  (0x646, "cNOONcHEHcWAWcALEF MAKSURAcYEHbFATHATANbDAMMATANbKASRATANbFATHAbDAMMAbKASRAbSHADDA"),
  (0x652, "bSUKUNbMADDAH ABOVEbHAMZAncBELOWbSUBSCRIPT ALEFbINVERTED DAMMAbMARK NOON GHUNNA"),
  (0x659, "bZWARAKAYbVOWEL SIGN SMALL V ABOVEdINVERTEDpdDOT BELOWbREVERSED DAMMA"),
  (0x65E, "bFATHA WITH TWO DOTSbWAVY HAMZA BELOWaARABIC-INDIC DIGIT ZEROcONEcTWOcTHREEcFOURcFIVE"),
  (0x666, "cSIXcSEVENcEIGHTcNINEaARABIC PERCENT SIGNbDECIMAL SEPARATORbTHOUSANDSn"),
  (0x66D, "bFIVE POINTED STARbLETTER DOTLESS BEHdQAFcSUPERSCRIPT ALEFcALEF WASLA"),
  (0x672, "dWITH WAVY HAMZA ABOVEgBELOWcHIGH HAMZAeALEFeWAWcU WITH HAMZA ABOVEcHIGH HAMZA YEH"),
  (0x679, "cTTEHcTTEHEHcBEEHcTEH WITH RINGeTHREE DOTS ABOVE DOWNWARDScPEHcTEHEHcBEHEH"),
  (0x681, "cHAH WITH HAMZA ABOVEeTWO DOTS VERTICALncNYEHcDYEHcHAH WITH THREE DOTS ABOVEcTCHEH"),
  (0x687, "cTCHEHEHcDDALcDAL WITH RINGeDOT BELOWgAND SMALL TAHcDAHALcDDAHALcDUL"),
  (0x68F, "cDAL WITH THREE DOTS ABOVE DOWNWARDSeFOUR DOTS ABOVEcRREHcREH WITH SMALL VeRING"),
  (0x694, "eDOT BELOWeSMALL VneDOT BELOW AND DOT ABOVEeTWO DOTSncJEHcREH WITH FOUR DOTS ABOVE"),
  (0x69A, "cSEEN WITH DOT BELOW AND DOTneTHREE DOTS BELOWhAND THREE DOTS ABOVE"),
  (0x69D, "cSAD WITH TWO DOTS BELOWeTHREE DOTS ABOVEcTAHqcAINqcDOTLESS FEH"),
  (0x6A2, "cFEH WITH DOT MOVED BELOWfncVEHcFEH WITH THREE DOTS BELOWcPEHEHcQAF WITH DOT ABOVE"),
  (0x6A8, "eTHREE DOTSncKEHEHcSWASH KAFcKAF WITH RINGeDOT ABOVEcNGcKAF WITH THREE DOTS BELOWcGAF"),
  (0x6B0, "dWITH RINGcNGOEHcGAF WITH TWO DOTS BELOWcGUEHcGAF WITH THREE DOTS ABOVE"),
  (0x6B5, "cLAM WITH SMALL VeDOT ABOVEeTHREE DOTSngBELOWcNOON WITH DOTndGHUNNAcRNOON"),
  (0x6BC, "cNOON WITH RINGeTHREE DOTS ABOVEcHEH DOACHASHMEEcTCHEH WITH DOT ABOVEcHEH WITH YEHn"),
  (0x6C1, "dGOALeWITH HAMZA ABOVEcTEH MARBUTA GOALcWAW WITH RINGcKIRGHIZ OEcncUcYUcKIRGHIZn"),
  (0x6CA, "cWAW WITH TWO DOTS ABOVEcVEcFARSI YEHcYEH WITH TAILeSMALL VcWAW WITH DOT ABOVEcE"),
  (0x6D1, "cYEH WITH THREE DOTS BELOWdBARREEeWITH HAMZA ABOVEbFULL STOPbLETTER AE"),
  (0x6D6, "bSMALL HIGH LIGATURE SAD WITH LAM WITH ALEF MAKSURAeQAFrdMEEM INITIAL FORMdLAM ALEF"),
  (0x6DA, "dJEEMdTHREE DOTSdSEENbEND OF AYAHbSTART OF RUB EL HIZBbSMALL HIGH ROUNDED ZERO"),
  (0x6E0, "dUPRIGHT RECTANGULARndDOTLESS HEAD OF KHAHdMEEM ISOLATED FORMcLOW SEENcHIGH MADDAcWAW"),
  (0x6E6, "cYEHcHIGHndNOONbPLACE OF SAJDAHbEMPTY CENTRE LOW STOPdHIGHn"),
  (0x6EC, "bROUNDED HIGH STOP WITH FILLED CENTREbSMALL LOW MEEMbLETTER DAL WITH INVERTED VcREHp"),
  (0x6F0, "aEXTENDED ARABIC-INDIC DIGIT ZEROdONEdTWOdTHREEdFOURdFIVEdSIXdSEVENdEIGHTdNINE"),
  (0x6FA, "aARABIC LETTER SHEEN WITH DOT BELOWcDADpcGHAINpbSIGN SINDHI AMPERSANDdPOSTPOSITION MEN"),
  (0x6FF, "bLETTER HEH WITH INVERTED VaSYRIAC END OF PARAGRAPHbSUPRALINEAR FULL STOPbSUBLINEARo"),
  (0x703, "bSUPRALINEAR COLONbSUBLINEARnbHORIZONTALnbCOLON SKEWED LEFTdRIGHT"),
  (0x708, "bSUPRALINEAR COLON SKEWED LEFTbSUBLINEAR COLON SKEWED RIGHTbCONTRACTION"),
  (0x70B, "bHARKLEAN OBELUScMETOBELUScASTERISCUS"),
  (0x70F, "bABBREVIATION MARKbLETTER ALAPHcSUPERSCRIPTncBETHcGAMALdGARSHUNIcDALATH"),
  (0x716, "cDOTLESS DALATH RISHcHEcWAWcZAINcHETHcTETHdGARSHUNIcYUDHdHEcKAPHcLAMADHcMIMcNUN"),
  (0x723, "cSEMKATHcFINALncEcPEcREVERSEDncSADHEcQAPHcRISHcSHINcTAWcPERSIAN BHETHdGHAMALdDHALATH"),
  (0x730, "bPTHAHA ABOVEcBELOWcDOTTEDbZQAPHA ABOVEcBELOWcDOTTEDbRBASA ABOVEcBELOW"),
  (0x738, "bDOTTED ZLAMA HORIZONTALdANGULARbHBASA ABOVEcBELOWbHBASA-ESASA DOTTEDbESASA ABOVE"),
  (0x73E, "cBELOWbRWAHAbFEMININE DOTbQUSHSHAYAbRUKKAKHAbTWO VERTICAL DOTS ABOVEeBELOW"),
  (0x745, "bTHREE DOTS ABOVEdBELOWbOBLIQUE LINE ABOVEdBELOWbMUSICbBARREKH"),
  (0x74D, "bLETTER SOGDIAN ZHAINdKHAPHdFEaARABIC LETTER BEH WITH THREE DOTS HORIZONTALLY BELOW"),
  (0x751, "eDOT BELOW AND THREE DOTS ABOVEeTHREE DOTS POINTING UPWARDS BELOWjAND TWO DOTS ABOVE"),
  (0x754, "eTWO DOTS BELOW AND DOTneINVERTED SMALL V BELOWeSMALL VcHAH WITH TWO DOTS ABOVE"),
  (0x758, "eTHREE DOTS POINTING UPWARDS BELOWcDAL WITH TWO DOTS VERTICALLY BELOW AND SMALL TAH"),
  (0x75A, "eINVERTED SMALL V BELOWcREH WITH STROKEcSEEN WITH FOUR DOTS ABOVEcAIN WITH TWOo"),
  (0x75E, "eTHREE DOTS POINTING DOWNWARDSneTWO DOTS VERTICALLYncFEH WITH TWO DOTS BELOW"),
  (0x761, "eTHREE DOTS POINTING UPWARDSncKEHEH WITH DOT ABOVEeTHREE DOTSngPOINTING UPWARDS BELOW"),
  (0x765, "cMEEM WITH DOT ABOVEfBELOWcNOON WITH TWO DOTSneSMALL TAHfVcLAM WITH BAR"),
  (0x76B, "cREH WITH TWO DOTS VERTICALLY ABOVEeHAMZAncSEEN WITH TWO DOTS VERTICALLYn"),
  (0x76E, "cHAH WITH SMALL ARABIC LETTER TAH BELOWiAND TWO DOTScSEENucREHu"),
  (0x772, "cHAH WITH SMALL ARABIC LETTER TAH ABOVEcALEF WITH EXTENDED ARABIC-INDIC DIGIT TWOn"),
  (0x774, "hTHREEncFARSI YEH WITH EXTENDED ARABIC-INDIC DIGIT TWOniTHREEniFOUR BELOW"),
  (0x778, "cWAW WITH EXTENDED ARABIC-INDIC DIGIT TWO ABOVEhTHREEn"),
  (0x77A, "cYEH BARREE WITH EXTENDED ARABIC-INDIC DIGIT TWOniTHREEn"),
  (0x77C, "cHAH WITH EXTENDED ARABIC-INDIC DIGIT FOUR BELOW"),
  (0x77D, "cSEEN WITH EXTENDED ARABIC-INDIC DIGIT FOUR ABOVEeINVERTED VcKAF WITH TWO DOTS ABOVE"),
  (0x780, "aTHAANA LETTER HAAcSHAVIYANIcNOONUcRAAcBAAcLHAVIYANIcKAAFUcALIFUcVAAVUcMEEMUcFAAFU"),
  (0x78B, "cDHAALUcTHAAcLAAMUcGAAFUcGNAVIYANIcSEENUcDAVIYANIcZAVIYANIcTAVIYANIcYAAcPAVIYANI"),
  (0x796, "cJAVIYANIcCHAVIYANIcTTAAcHHAAcKHAAcTHAALUcZAAcSHEENUcSAADHUcDAADHUcTOcZOcAINUcGHAINU"),
  (0x7A4, "cQAAFUcWAAVUbABAFILIbAABAAFILIbIBIFILIbEEBEEFILIbUBUFILIbOOBOOFILIbEBEFILIbEYBEYFILI"),
  (0x7AE, "bOBOFILIbOABOAFILIbSUKUNbLETTER NAA"),
  (0x7C0, "aNKO DIGIT ZEROcONEcTWOcTHREEcFOURcFIVEcSIXcSEVENcEIGHTcNINEbLETTER AcEEcIcEcUcOOcO"),
  (0x7D1, "cDAGBASINNAcNcBAcPAcTAcJAcCHAcDAcRAcRRAcSAcGBAcFAcKAcLAcNA WOLOSOcMAcNYAcNAcHAcWAcYA"),
  (0x7E7, "cNYA WOLOSOcJONA JAdCHAdRAbCOMBINING SHORT HIGH TONEdLOWndRISINGncLONG DESCENDINGn"),
  (0x7EF, "dHIGHndLOWndRISINGncNASALIZATION MARKcDOUBLE DOT ABOVEbHIGH TONE APOSTROPHEbLOWo"),
  (0x7F6, "bSYMBOL OO DENNENcGBAKURUNENbCOMMAbEXCLAMATION MARKbLAJANYALAN"),
  (0x7FD, "bDANTAYALANbDOROME SIGNbTAMANnaSAMARITAN LETTER ALAFcBITcGAMANcDALATcIYcBAAcZENcITcTIT"),
  (0x809, "cYUTcKAAFcLABATcMIMcNUNcSINGAATcINcFIcTSAADIYcQUFcRISHcSHANcTAAFbMARK INcIN-ALAF"),
  (0x818, "cOCCLUSIONcDAGESHbMODIFIER LETTER EPENTHETIC YUTbMARKobVOWEL SIGN LONG EdndOVERLONG AA"),
  (0x81F, "dLONGndndOVERLONG AdLONGndnbMODIFIER LETTER SHORTnbVOWEL SIGNodLONG Udn"),
  (0x828, "bMODIFIER LETTER IbVOWEL SIGN LONGndndOdSUKUNbMARK NEQUDAA")]

end BooksGateway.Text.CharName
