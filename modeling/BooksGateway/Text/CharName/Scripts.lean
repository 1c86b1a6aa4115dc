/-!
# Names of letters of further scripts

The names of the further living scripts of Asia, Africa and America, and more Latin and Greek
letters. Each row has the first character and the names from it on, as `BooksGateway.Text.CharName`
reads them.
-/

namespace BooksGateway.Text.CharName

/-- The names from U+0800 to U+1FFF, in rows. -/
def scripts : List (Nat × String) := [
  (0x830, "aSAMARITAN PUNCTUATION NEQUDAAcAFSAAQcANGEDcBAUcATMAAUcSHIYYAALAAbABBREVIATION MARK"),
  (0x837, "bPUNCTUATION MELODIC QITSAcZIQAAcQITSAcZAEFcTURUcARKAANUcSOF MASHFAATcANNAAU"),
  (0x840, "aMANDAIC LETTER HALQAcABcAGcADcAHcUSHENNAcAZcITcATTcAKSAcAKcALcAMcANcAScINcAPcASZcAQ"),
  (0x853, "cARcASHcATcDUSHENNAcKADcAINbAFFRICATION MARKbVOCALIZATIONnbGEMINATIONn"),
  (0x85E, "bPUNCTUATION"),
  (0x860, "aSYRIAC LETTER MALAYALAM NGAdJAdNYAdTTAdNNAdNNNAdBHAdRAdLLAdLLLAdSSA"),
  (0x870, "aARABIC LETTER ALEF WITH ATTACHED FATHAfTOP RIGHTneRIGHT MIDDLE STROKEeLEFTo"),
  (0x874, "eATTACHED KASRAfBOTTOM RIGHTnfROUND DOT ABOVEfRIGHT ROUND DOTfLEFTofROUND DOT BELOW"),
  (0x87A, "eDOT ABOVEeATTACHED TOP RIGHT FATHA ANDoeRIGHT MIDDLE STROKEp"),
  (0x87D, "eATTACHED BOTTOM RIGHT KASRApfTOP RIGHT FATHA AND LEFT RINGeRIGHT MIDDLE STROKEp"),
  (0x880, "eATTACHED BOTTOM RIGHT KASRApfRIGHT HAMZAfLEFTnbTATWEEL WITH OVERSTRUCKneWAW"),
  (0x885, "dTWO DOTS BELOWbLETTER THIN YEHbBASELINE ROUND DOTbRAISEDo"),
  (0x889, "bLETTER NOON WITH INVERTED SMALL VcHAH WITH INVERTED SMALL V BELOWcTAH WITH DOTn"),
  (0x88C, "eTHREE DOTSncKEHEH WITH TWO DOTS VERTICALLYnbVERTICAL TAIL"),
  (0x890, "bPOUND MARK ABOVEbPIASTREo"),
  (0x898, "bSMALL HIGH WORD AL-JUZcLOW WORD ISHMAAMeIMAALAeTASHEELbMADDA WAAJIB"),
  (0x89D, "bSUPERSCRIPT ALEF MOKHASSASbDOUBLED MADDAbHALF MADDA OVERn"),
  (0x8A0, "bLETTER BEH WITH SMALL V BELOWeHAMZA ABOVEcJEEM WITH TWO DOTSncTAHq"),
  (0x8A4, "cFEH WITH DOT BELOW AND THREEocQAF WITH DOT BELOWcLAM WITH DOUBLE BAR"),
  (0x8A7, "cMEEM WITH THREE DOTS ABOVEcYEH WITH TWO DOTS BELOW AND HAMZAniDOTncREH WITH LOOP"),
  (0x8AB, "cWAW WITH DOT WITHINcROHINGYA YEHcLOW ALEFcDAL WITH THREE DOTS BELOWcSADq"),
  (0x8B0, "cGAF WITH INVERTED STROKEcSTRAIGHT WAWcZAIN WITH INVERTED V ABOVE"),
  (0x8B3, "cAIN WITH THREE DOTS BELOWcKAF WITH DOTncQAF WITH DOT BELOW AND NO DOTS ABOVE"),
  (0x8B6, "cBEH WITH SMALL MEEMncPEHqcTEH WITH SMALL TEHncREH WITH SMALL NOONn"),
  (0x8BA, "cYEH WITH TWO DOTS BELOW ANDpcAFRICAN FEHdQAFdNOONcPEH WITH SMALL VcTEHpcTTEHpcTCHEHp"),
  (0x8C2, "cKEHEHpcGHAIN WITH THREE DOTS ABOVEcAFRICAN QAFqcJEEMqgBELOW"),
  (0x8C7, "cLAM WITH SMALL ARABIC LETTER TAH ABOVEcGRAFbSMALL FARSI YEHcHIGHo"),
  (0x8CB, "dYEH BARREE WITH TWO DOTS BELOWdWORD SAHdZAHbLARGE ROUND DOT ABOVEeBELOWbSUKUNn"),
  (0x8D1, "bLARGE CIRCLEncROUND DOT INSIDEobSMALL LOW WAWcHIGH WORD AR-RUBdSADdAINdQAF"),
  (0x8D8, "dNOON WITH KASRAcLOWpcHIGH WORD ATH-THALATHAeAS-SAJDAeAN-NISFeSAKTAeQIFeWAQFA"),
  (0x8E0, "dFOOTNOTE MARKERdSIGN SAFHAbDISPUTED END OF AYAHbTURNED DAMMA BELOWbCURLY FATHAcDAMMA"),
  (0x8E6, "cKASRAcFATHATANcDAMMATANcKASRATANbTONE ONE DOT ABOVEcTWO DOTSncLOOPncONE DOT BELOW"),
  (0x8EE, "cTWO DOTSncLOOPnbOPEN FATHATANcDAMMATANcKASRATANbSMALL HIGH WAWbFATHA WITH RING"),
  (0x8F5, "dDOT ABOVEbKASRA WITH DOT BELOWbLEFT ARROWHEAD ABOVEbRIGHTobLEFT ARROWHEAD BELOW"),
  (0x8FA, "bRIGHTobDOUBLE RIGHT ARROWHEAD ABOVEfWITH DOTbrbDAMMAobMARK SIDEWAYS NOON GHUNNA"),
  (0x900, "aDEVANAGARI SIGN INVERTED CANDRABINDUcncANUSVARAcVISARGAbLETTER SHORT AcncAAcIcIIcUcUU"),
  (0x90B, "cVOCALIC RdLcCANDRA EcSHORTncncAIcCANDRA OcSHORTncncAUcKAcKHAcGAcGHAcNGAcCAcCHAcJAcJHA"),
  (0x91E, "cNYAcTTAcTTHAcDDAcDDHAcNNAcTAcTHAcDAcDHAcNAcNNNAcPAcPHAcBAcBHAcMAcYAcRAcRRAcLAcLLA"),
  (0x934, "cLLLAcVAcSHAcSSAcSAcHAbVOWEL SIGN OEdOOEbSIGN NUKTAcAVAGRAHAbVOWEL SIGN AAdIdIIdUdUU"),
  (0x943, "dVOCALIC ReRRdCANDRA EdSHORTndndAIdCANDRA OdSHORTndndAUbSIGN VIRAMA"),
  (0x94E, "bVOWEL SIGN PRISHTHAMATRA EdAWbOMbSTRESS SIGN UDATTAdANUDATTAbGRAVE ACCENTbACUTEn"),
  (0x955, "bVOWEL SIGN CANDRA LONG EdUEdUUEbLETTER QAcKHHAcGHHAcZAcDDDHAcRHAcFAcYYAcVOCALIC RRdLL"),
  (0x962, "bVOWEL SIGN VOCALIC LeLLbDANDAbDOUBLEnbDIGIT ZEROcONEcTWOcTHREEcFOURcFIVEcSIXcSEVEN"),
  (0x96E, "cEIGHTcNINEbABBREVIATION SIGNbSIGN HIGH SPACING DOTbLETTER CANDRA AcOEcOOEcAWcUEcUUE"),
  (0x978, "cMARWARI DDAcZHAcHEAVY YAcGGAcJJAcGLOTTAL STOPcDDDAcBBAaBENGALI ANJIbSIGN CANDRABINDU"),
  (0x982, "cANUSVARAcVISARGA"),
  (0x985, "bLETTER AcAAcIcIIcUcUUcVOCALIC RdL"),
  (0x98F, "cEcAI"),
  (0x993, "cOcAUcKAcKHAcGAcGHAcNGAcCAcCHAcJAcJHAcNYAcTTAcTTHAcDDAcDDHAcNNAcTAcTHAcDAcDHAcNA"),
  (0x9AA, "cPAcPHAcBAcBHAcMAcYAcRA"),
  (0x9B2, "cLA"),
  (0x9B6, "cSHAcSSAcSAcHA"),
  (0x9BC, "bSIGN NUKTAcAVAGRAHAbVOWEL SIGN AAdIdIIdUdUUdVOCALIC ReRR"),
  (0x9C7, "dEdAI"),
  (0x9CB, "dOdAUbSIGN VIRAMAbLETTER KHANDA TA"),
  (0x9D7, "bAU LENGTH MARK"),
  (0x9DC, "bLETTER RRAcRHA"),
  (0x9DF, "cYYAcVOCALIC RRdLLbVOWEL SIGN VOCALIC LeLL"),
  (0x9E6, "bDIGIT ZEROcONEcTWOcTHREEcFOURcFIVEcSIXcSEVENcEIGHTcNINE"),
  (0x9F0, "bLETTER RA WITH MIDDLE DIAGONALeLOWERnbRUPEE MARKcSIGNbCURRENCY NUMERATOR ONEdTWO"),
  (0x9F6, "dTHREEdFOURdONE LESS THAN THE DENOMINATORcDENOMINATOR SIXTEENbISSHARbGANDA MARK"),
  (0x9FC, "bLETTER VEDIC ANUSVARAbABBREVIATION SIGNbSANDHI MARK"),
  (0xA01, "aGURMUKHI SIGN ADAK BINDIcncVISARGA"),
  (0xA05, "bLETTER AcAAcIcIIcUcUU"),
  (0xA0F, "cEEcAI"),
  (0xA13, "cOOcAUcKAcKHAcGAcGHAcNGAcCAcCHAcJAcJHAcNYAcTTAcTTHAcDDAcDDHAcNNAcTAcTHAcDAcDHAcNA"),
  (0xA2A, "cPAcPHAcBAcBHAcMAcYAcRA"),
  (0xA32, "cLAcLLA"),
  (0xA35, "cVAcSHA"),
  (0xA38, "cSAcHA"),
  (0xA3C, "bSIGN NUKTA"),
  (0xA3E, "bVOWEL SIGN AAdIdIIdUdUU"),
  (0xA47, "dEEdAI"),
  (0xA4B, "dOOdAUbSIGN VIRAMA"),
  (0xA51, "cUDAAT"),
  (0xA59, "bLETTER KHHAcGHHAcZAcRRA"),
  (0xA5E, "cFA"),
  (0xA66, "bDIGIT ZEROcONEcTWOcTHREEcFOURcFIVEcSIXcSEVENcEIGHTcNINEbTIPPIbADDAKbIRIbURAbEK ONKAR"),
  (0xA75, "bSIGN YAKASHbABBREVIATION SIGN"),
  (0xA81, "aGUJARATI SIGN CANDRABINDUcANUSVARAcVISARGA"),
  (0xA85, "bLETTER AcAAcIcIIcUcUUcVOCALIC RdLbVOWEL CANDRA E"),
  (0xA8F, "bLETTERncAIbVOWEL CANDRA O"),
  (0xA93, "bLETTERncAUcKAcKHAcGAcGHAcNGAcCAcCHAcJAcJHAcNYAcTTAcTTHAcDDAcDDHAcNNAcTAcTHAcDAcDHAcNA"),
  (0xAAA, "cPAcPHAcBAcBHAcMAcYAcRA"),
  (0xAB2, "cLAcLLA"),
  (0xAB5, "cVAcSHAcSSAcSAcHA"),
  (0xABC, "bSIGN NUKTAcAVAGRAHAbVOWEL SIGN AAdIdIIdUdUUdVOCALIC ReRRdCANDRA E"),
  (0xAC7, "dndAIdCANDRA O"),
  (0xACB, "dndAUbSIGN VIRAMA"),
  (0xAD0, "bOM"),
  (0xAE0, "bLETTER VOCALIC RRdLLbVOWEL SIGN VOCALIC LeLL"),
  (0xAE6, "bDIGIT ZEROcONEcTWOcTHREEcFOURcFIVEcSIXcSEVENcEIGHTcNINEbABBREVIATION SIGNbRUPEEn"),
  (0xAF9, "bLETTER ZHAbSIGN SUKUNcSHADDAcMADDAHcTHREE-DOT NUKTA ABOVEcCIRCLEocTWO-CIRCLEo"),
  (0xB01, "aORIYA SIGN CANDRABINDUcANUSVARAcVISARGA"),
  (0xB05, "bLETTER AcAAcIcIIcUcUUcVOCALIC RdL"),
  (0xB0F, "cEcAI"),
  (0xB13, "cOcAUcKAcKHAcGAcGHAcNGAcCAcCHAcJAcJHAcNYAcTTAcTTHAcDDAcDDHAcNNAcTAcTHAcDAcDHAcNA"),
  (0xB2A, "cPAcPHAcBAcBHAcMAcYAcRA"),
  (0xB32, "cLAcLLA"),
  (0xB35, "cVAcSHAcSSAcSAcHA"),
  (0xB3C, "bSIGN NUKTAcAVAGRAHAbVOWEL SIGN AAdIdIIdUdUUdVOCALIC ReRR"),
  (0xB47, "dEdAI"),
  (0xB4B, "dOdAUbSIGN VIRAMA"),
  (0xB55, "cOVERLINEbAI LENGTH MARKbAUo"),
  (0xB5C, "bLETTER RRAcRHA"),
  (0xB5F, "cYYAcVOCALIC RRdLLbVOWEL SIGN VOCALIC LeLL"),
  (0xB66, "bDIGIT ZEROcONEcTWOcTHREEcFOURcFIVEcSIXcSEVENcEIGHTcNINEbISSHARbLETTER WA"),
  (0xB72, "bFRACTION ONE QUARTERdHALFcTHREE QUARTERScONE SIXTEENTHdEIGHTHcTHREE SIXTEENTHS"),
  (0xB82, "aTAMIL SIGN ANUSVARAcVISARGA"),
  (0xB85, "bLETTER AcAAcIcIIcUcUU"),
  (0xB8E, "cEcEEcAI"),
  (0xB92, "cOcOOcAUcKA"),
  (0xB99, "cNGAcCA"),
  (0xB9C, "cJA"),
  (0xB9E, "cNYAcTTA"),
  (0xBA3, "cNNAcTA"),
  (0xBA8, "cNAcNNNAcPA"),
  (0xBAE, "cMAcYAcRAcRRAcLAcLLAcLLLAcVAcSHAcSSAcSAcHA"),
  (0xBBE, "bVOWEL SIGN AAdIdIIdUdUU"),
  (0xBC6, "dEdEEdAI"),
  (0xBCA, "dOdOOdAUbSIGN VIRAMA"),
  (0xBD0, "bOM"),
  (0xBD7, "bAU LENGTH MARK"),
  (0xBE6, "bDIGIT ZEROcONEcTWOcTHREEcFOURcFIVEcSIXcSEVENcEIGHTcNINEbNUMBER TENcONE HUNDRED"),
  (0xBF2, "dTHOUSANDbDAY SIGNbMONTHnbYEARnbDEBITnbCREDITnbAS ABOVEnbRUPEEnbNUMBERn"),
  (0xC00, "aTELUGU SIGN COMBINING CANDRABINDU ABOVEcCANDRABINDUcANUSVARAcVISARGA"),
  (0xC04, "cCOMBINING ANUSVARA ABOVEbLETTER AcAAcIcIIcUcUUcVOCALIC RdL"),
  (0xC0E, "cEcEEcAI"),
  (0xC12, "cOcOOcAUcKAcKHAcGAcGHAcNGAcCAcCHAcJAcJHAcNYAcTTAcTTHAcDDAcDDHAcNNAcTAcTHAcDAcDHAcNA"),
  (0xC2A, "cPAcPHAcBAcBHAcMAcYAcRAcRRAcLAcLLAcLLLAcVAcSHAcSSAcSAcHA"),
  (0xC3C, "bSIGN NUKTAcAVAGRAHAbVOWEL SIGN AAdIdIIdUdUUdVOCALIC ReRR"),
  (0xC46, "dEdEEdAI"),
  (0xC4A, "dOdOOdAUbSIGN VIRAMA"),
  (0xC55, "bLENGTH MARKbAIo"),
  (0xC58, "bLETTER TSAcDZAcRRRA"),
  (0xC5D, "cNAKAARA POLLU"),
  (0xC60, "cVOCALIC RRdLLbVOWEL SIGN VOCALIC LeLL"),
  (0xC66, "bDIGIT ZEROcONEcTWOcTHREEcFOURcFIVEcSIXcSEVENcEIGHTcNINE"),
  (0xC77, "bSIGN SIDDHAMbFRACTION DIGIT ZERO FOR ODD POWERS OF FOURdONErdTWOrdTHREEr"),
  (0xC7C, "dONE FOR EVENpdTWOrdTHREErbSIGN TUUMUaKANNADA SIGN SPACING CANDRABINDUcncANUSVARA"),
  (0xC83, "cVISARGAcSIDDHAMbLETTER AcAAcIcIIcUcUUcVOCALIC RdL"),
  (0xC8E, "cEcEEcAI"),
  (0xC92, "cOcOOcAUcKAcKHAcGAcGHAcNGAcCAcCHAcJAcJHAcNYAcTTAcTTHAcDDAcDDHAcNNAcTAcTHAcDAcDHAcNA"),
  (0xCAA, "cPAcPHAcBAcBHAcMAcYAcRAcRRAcLAcLLA"),
  (0xCB5, "cVAcSHAcSSAcSAcHA"),
  (0xCBC, "bSIGN NUKTAcAVAGRAHAbVOWEL SIGN AAdIdIIdUdUUdVOCALIC ReRR"),
  (0xCC6, "dEdEEdAI"),
  (0xCCA, "dOdOOdAUbSIGN VIRAMA"),
  (0xCD5, "bLENGTH MARKbAIo"),
  (0xCDD, "bLETTER NAKAARA POLLUcFA"),
  (0xCE0, "cVOCALIC RRdLLbVOWEL SIGN VOCALIC LeLL"),
  (0xCE6, "bDIGIT ZEROcONEcTWOcTHREEcFOURcFIVEcSIXcSEVENcEIGHTcNINE"),
  (0xCF1, "bSIGN JIHVAMULIYAcUPADHMANIYA"),
  (0xD00, "aMALAYALAM SIGN COMBINING ANUSVARA ABOVEcCANDRABINDUcANUSVARAcVISARGA"),
  (0xD04, "bLETTER VEDIC ANUSVARAcAcAAcIcIIcUcUUcVOCALIC RdL"),
  (0xD0E, "cEcEEcAI"),
  (0xD12, "cOcOOcAUcKAcKHAcGAcGHAcNGAcCAcCHAcJAcJHAcNYAcTTAcTTHAcDDAcDDHAcNNAcTAcTHAcDAcDHAcNA"),
  (0xD29, "cNNNAcPAcPHAcBAcBHAcMAcYAcRAcRRAcLAcLLAcLLLAcVAcSHAcSSAcSAcHAcTTTA"),
  (0xD3B, "bSIGN VERTICAL BAR VIRAMAcCIRCULARncAVAGRAHAbVOWEL SIGN AAdIdIIdUdUUdVOCALIC ReRR"),
  (0xD46, "dEdEEdAI"),
  (0xD4A, "dOdOOdAUbSIGN VIRAMAbLETTER DOT REPHbSIGN PARA"),
  (0xD54, "bLETTER CHILLU MdYdLLLbAU LENGTH MARKbFRACTION ONE ONE-HUNDRED-AND-SIXTIETHdFORTIETH"),
  (0xD5A, "cTHREE EIGHTIETHScONE TWENTIETHdTENTHcTHREE TWENTIETHScONE FIFTHbLETTER ARCHAIC II"),
  (0xD60, "cVOCALIC RRdLLbVOWEL SIGN VOCALIC LeLL"),
  (0xD66, "bDIGIT ZEROcONEcTWOcTHREEcFOURcFIVEcSIXcSEVENcEIGHTcNINEbNUMBER TENcONE HUNDRED"),
  (0xD72, "dTHOUSANDbFRACTION ONE QUARTERdHALFcTHREE QUARTERScONE SIXTEENTHdEIGHTH"),
  (0xD78, "cTHREE SIXTEENTHSbDATE MARKbLETTER CHILLU NNdNdRRdLdLLdK"),
  (0xD81, "aSINHALA SIGN CANDRABINDUcANUSVARAYAcVISARGAYA"),
  (0xD85, "bLETTER AYANNAcAAYANNAcAEYANNAcAEEYANNAcIYANNAcIIYANNAcUYANNAcUUYANNAcIRUYANNA"),
  (0xD8E, "cIRUUYANNAcILUYANNAcILUUYANNAcEYANNAcEEYANNAcAIYANNAcOYANNAcOOYANNAcAUYANNA"),
  (0xD9A, "cALPAPRAANA KAYANNAcMAHAAPRAANAncALPAPRAANA GAYANNAcMAHAAPRAANAncKANTAJA NAASIKYAYA"),
  (0xD9F, "cSANYAKA GAYANNAcALPAPRAANA CAYANNAcMAHAAPRAANAncALPAPRAANA JAYANNAcMAHAAPRAANAn"),
  (0xDA4, "cTAALUJA NAASIKYAYAdSANYOOGA NAAKSIKYAYAcSANYAKA JAYANNAcALPAPRAANA TTAYANNA"),
  (0xDA8, "cMAHAAPRAANAncALPAPRAANA DDAYANNAcMAHAAPRAANAncMUURDHAJA NAYANNAcSANYAKA DDAYANNA"),
  (0xDAD, "cALPAPRAANA TAYANNAcMAHAAPRAANAncALPAPRAANA DAYANNAcMAHAAPRAANAncDANTAJA NAYANNA"),
  (0xDB3, "cSANYAKA DAYANNAcALPAPRAANA PAYANNAcMAHAAPRAANAncALPAPRAANA BAYANNAcMAHAAPRAANAn"),
  (0xDB8, "cMAYANNAcAMBA BAYANNAcYAYANNAcRAYANNA"),
  (0xDBD, "cDANTAJA LAYANNA"),
  (0xDC0, "cVAYANNAcTAALUJA SAYANNAcMUURDHAJAncDANTAJAncHAYANNAcMUURDHAJA LAYANNAcFAYANNA"),
  (0xDCA, "bSIGN AL-LAKUNA"),
  (0xDCF, "bVOWEL SIGN AELA-PILLAdKETTI AEDA-PILLAdDIGAndKETTI IS-PILLAdDIGAndKETTI PAA-PILLA"),
  (0xDD6, "dDIGAn"),
  (0xDD8, "dGAETTA-PILLAdKOMBUVAdDIGAndKOMBU DEKAdKOMBUVA HAA AELA-PILLAfDIGAnfGAYANUKITTAdn"),
  (0xDE6, "bLITH DIGIT ZEROdONEdTWOdTHREEdFOURdFIVEdSIXdSEVENdEIGHTdNINE"),
  (0xDF2, "bVOWEL SIGN DIGA GAETTA-PILLAeGAYANUKITTAbPUNCTUATION KUNDDALIYA"),
  (0xE01, "aTHAI CHARACTER KO KAIcKHO KHAIdKHUATdKHWAIdKHONdRAKHANGcNGO NGUcCHO CHANdCHINGdCHANG"),
  (0xE0B, "cSO SOcCHO CHOEcYO YINGcDO CHADAcTO PATAKcTHO THANdNANGMONTHOdPHUTHAOcNO NENcDO DEK"),
  (0xE15, "cTO TAOcTHO THUNGdTHAHANdTHONGcNO NUcBO BAIMAIcPO PLAcPHO PHUNGcFO FAcPHO PHANcFO FAN"),
  (0xE20, "cPHO SAMPHAOcMO MAcYO YAKcRO RUAcRUcLO LINGcLUcWO WAENcSO SALAdRUSIdSUAcHO HIP"),
  (0xE2C, "cLO CHULAcO ANGcHO NOKHUKcPAIYANNOIcSARA AcMAI HAN-AKATcSARA AAdAMdIdIIdUEdUEEdUdUU"),
  (0xE3A, "cPHINTHU"),
  (0xE3F, "bCURRENCY SYMBOL BAHTbCHARACTER SARA EdAEdOdAI MAIMUANeMAIMALAIcLAKKHANGYAOcMAIYAMOK"),
  (0xE47, "cMAITAIKHUcMAI EKdTHOdTRIdCHATTAWAcTHANTHAKHATcNIKHAHITcYAMAKKANcFONGMANbDIGIT ZERO"),
  (0xE51, "cONEcTWOcTHREEcFOURcFIVEcSIXcSEVENcEIGHTcNINEbCHARACTER ANGKHANKHUcKHOMUT"),
  (0xE81, "aLAO LETTER KOcKHO SUNG"),
  (0xE84, "dTAM"),
  (0xE86, "cPALI GHAcNGOcCOcPALI CHAcSO TAM"),
  (0xE8C, "cPALI JHAcNYOcPALI NYAdTTAdTTHAdDDAdDDHAdNNAcDOcTOcTHO SUNGdTAMcPALI DHAcNOcBOcPO"),
  (0xE9C, "cPHO SUNGcFO TAMcPHOncFO SUNGcPALI BHAcMOcYOcLO LING"),
  (0xEA5, "dLOOT"),
  (0xEA7, "cWOcSANSKRIT SHAdSSAcSO SUNGcHOncPALI LLAcOcHO TAMbELLIPSISbVOWEL SIGN AdMAI KANdAAdAM"),
  (0xEB4, "dIdIIdYdYYdUdUUbSIGN PALI VIRAMAbVOWEL SIGN MAI KONbSEMIVOWEL SIGN LOdNYO"),
  (0xEC0, "bVOWEL SIGN EdEIdOdAYdAI"),
  (0xEC6, "bKO LA"),
  (0xEC8, "bTONE MAI EKdTHOdTIdCATAWAbCANCELLATION MARKbNIGGAHITA"),
  (0xED0, "bDIGIT ZEROcONEcTWOcTHREEcFOURcFIVEcSIXcSEVENcEIGHTcNINE"),
  (0xEDC, "bHO NOcMObLETTER KHMU GOdNYO"),
  (0xF00, "aTIBETAN SYLLABLE OMbMARK GTER YIG MGO TRUNCATED Af-UM RNAM BCAD MAgGTER TSHEGn"),
  (0xF04, "cINITIAL YIG MGO MDUNncCLOSING YIG MGO SGABncCARET YIG MGO PHUR SHADncYIG MGO TSHEGo"),
  (0xF08, "cSBRUL SHADcBSKUR YIG MGOcBKA- SHOGocINTERSYLLABIC TSHEGcDELIMITER TSHEG BSTARcSHAD"),
  (0xF0E, "cNYISncTSHEGncNYISocRIN CHEN SPUNGSncRGYA GRAMncCARET -DZUD RTAGS ME LONG CAN"),
  (0xF14, "cGTER TSHEGbLOGOTYPE SIGN CHAD RTAGSdLHAGnbASTROLOGICAL SIGN SGRA GCAN -CHARn"),
  (0xF18, "d-KHYUD PAdSDONG TSHUGSbSIGN RDEL DKAR GCIGeGNYISeGSUMdNAG GCIGeGNYISdDKAR RDEL NAG"),
  (0xF20, "bDIGIT ZEROcONEcTWOcTHREEcFOURcFIVEcSIXcSEVENcEIGHTcNINEcHALF ONEdTWOdTHREEdFOURdFIVE"),
  (0xF2F, "dSIXdSEVENdEIGHTdNINEdZERObMARK BSDUS RTAGScNGAS BZUNG NYI ZLA"),
  (0xF36, "cCARET -DZUD RTAGS BZHI MIG CANcNGAS BZUNG SGOR RTAGScCHE MGOcTSA -PHRUcGUG RTAGS GYON"),
  (0xF3B, "eGYAScANG KHANG GYONeGYASbSIGN YAR TSHEScMARnbLETTER KAcKHAcGAcGHAcNGAcCAcCHAcJA"),
  (0xF49, "cNYAcTTAcTTHAcDDAcDDHAcNNAcTAcTHAcDAcDHAcNAcPAcPHAcBAcBHAcMAcTSAcTSHAcDZAcDZHAcWAcZHA"),
  (0xF5F, "cZAc-AcYAcRAcLAcSHAcSSAcSAcHAcAcKSSAcFIXED-FORM RAcKKAcRRA"),
  (0xF71, "bVOWEL SIGN AAdIdIIdUdUUdVOCALIC ReRReLeLLdEdEEdOdOObSIGN RJES SU NGA ROcRNAM BCAD"),
  (0xF80, "bVOWEL SIGN REVERSED IeIIbSIGN NYI ZLA NAA DAcSNA LDANbMARK HALANTAcPALUTA"),
  (0xF86, "bSIGN LCI RTAGScYANGncLCE TSA CANcMCHUncGRU CAN RGYINGSdMEDncINVERTED MCHU CAN"),
  (0xF8D, "bSUBJOINED SIGN LCE TSAndMCHUndINVERTEDocLETTER KAdKHAdGAdGHAdNGAdCAdCHAdJA"),
  (0xF99, "dNYAdTTAdTTHAdDDAdDDHAdNNAdTAdTHAdDAdDHAdNAdPAdPHAdBAdBHAdMAdTSAdTSHAdDZAdDZHAdWAdZHA"),
  (0xFAF, "dZAd-AdYAdRAdLAdSHAdSSAdSAdHAdAdKSSAdFIXED-FORM WAeYAeRA"),
  (0xFBE, "bKU RU KHAeBZHI MIG CANbCANTILLATION SIGN HEAVY BEATdLIGHTndCANG TE-UdSBUB -CHAL"),
  (0xFC4, "bSYMBOL DRIL BUcRDO RJEcPADMA GDANcRDO RJE RGYA GRAMcPHUR PAcNOR BUeNYIS -KHYILeGSUMn"),
  (0xFCC, "eBZHIn"),
  (0xFCE, "bSIGN RDEL NAG RDEL DKAReGSUMbMARK BSKA- SHOG GI MGO RGYANcMNYAM YIGpcNYIS TSHEG"),
  (0xFD3, "cINITIAL BRDA RNYING YIG MGO MDUN MAcCLOSING BRDA RNYING YIG MGO SGABn"),
  (0xFD5, "aRIGHT-FACING SVASTI SIGNaLEFT-FACINGoaRIGHT-FACING SVASTI SIGN WITH DOTSaLEFT-FACINGq"),
  (0xFD9, "aTIBETAN MARK LEADING MCHAN RTAGScTRAILINGo"),
  (0x1000, "aMYANMAR LETTER KAcKHAcGAcGHAcNGAcCAcCHAcJAcJHAcNYAcNNYAcTTAcTTHAcDDAcDDHAcNNAcTAcTHA"),
  (0x1012, "cDAcDHAcNAcPAcPHAcBAcBHAcMAcYAcRAcLAcWAcSAcHAcLLAcAcSHANncIcIIcUcUUcEcMONncOcAU"),
  (0x102B, "bVOWEL SIGN TALL AAdndIdIIdUdUUdEdAIdMON IIeOdE ABOVEbSIGN ANUSVARAcDOT BELOWcVISARGA"),
  (0x1039, "cVIRAMAcASATbCONSONANT SIGN MEDIAL YAeRAeWAeHAbLETTER GREAT SAbDIGIT ZEROcONEcTWO"),
  (0x1043, "cTHREEcFOURcFIVEcSIXcSEVENcEIGHTcNINEbSIGN LITTLE SECTIONcnbSYMBOL LOCATIVEcCOMPLETED"),
  (0x104E, "cAFOREMENTIONEDcGENITIVEbLETTER SHAcSSAcVOCALIC RdRRdLdLLbVOWEL SIGN VOCALIC ReRReL"),
  (0x1059, "eLLbLETTER MON NGAdJHAdBBAdBBEbCONSONANT SIGN MON MEDIAL NAfMAfLA"),
  (0x1061, "bLETTER SGAW KAREN SHAbVOWEL SIGN SGAW KAREN EUbTONE MARK SGAW KAREN HATHIfKE PHO"),
  (0x1065, "bLETTER WESTERN PWO KAREN THAfPWAbVOWEL SIGN WESTERN PWO KAREN EUgUE"),
  (0x1069, "bSIGN WESTERN PWO KAREN TONE-1fTONE-2fTONE-3fTONE-4fTONE-5"),
  (0x106E, "bLETTER EASTERN PWO KAREN NNAfYWAfGHWAbVOWEL SIGN GEBA KAREN IdKAYAH OEeUeEE"),
  (0x1075, "bLETTER SHAN KAdKHAdGAdCAdZAdNYAdDAdNAdPHAdFAdBAdTHAdHAbCONSONANT SIGN SHAN MEDIAL WA"),
  (0x1083, "bVOWEL SIGN SHAN AAeEfABOVEeFINAL YbSIGN SHAN TONE-2dTONE-3dTONE-5dTONE-6"),
  (0x108B, "dCOUNCIL TONE-2eTONE-3eEMPHATIC TONEbLETTER RUMAI PALAUNG FA"),
  (0x108F, "bSIGN RUMAI PALAUNG TONE-5bSHAN DIGIT ZEROdONEdTWOdTHREEdFOURdFIVEdSIXdSEVENdEIGHT"),
  (0x1099, "dNINEbSIGN KHAMTI TONE-1dTONE-3bVOWEL SIGN AITON AeAIbSYMBOL SHAN ONEdEXCLAMATION"),
  (0x10A0, "aGEORGIAN CAPITAL LETTER ANdBANdGANdDONdENdVINdZENdTANdINdKANdLASdMANdNARdONdPARdZHAR"),
  (0x10B0, "dRAEdSANdTARdUNdPHARdKHARdGHANdQARdSHINdCHINdCANdJILdCILdCHARdXANdJHANdHAEdHEdHIEdWE"),
  (0x10C4, "dHARdHOE"),
  (0x10C7, "dYN"),
  (0x10CD, "dAEN"),
  (0x10D0, "bLETTER ANcBANcGANcDONcENcVINcZENcTANcINcKANcLAScMANcNARcONcPARcZHARcRAEcSANcTARcUN"),
  (0x10E4, "cPHARcKHARcGHANcQARcSHINcCHINcCANcJILcCILcCHARcXANcJHANcHAEcHEcHIEcWEcHARcHOEcFIcYN"),
  (0x10F8, "cELIFIcTURNED GANcAINbPARAGRAPH SEPARATORaMODIFIER LETTER GEORGIAN NAR"),
  (0x10FD, "aGEORGIAN LETTER AENcHARD SIGNcLABIALnaHANGUL CHOSEONG KIYEOKcSSANGKIYEOKcNIEUN"),
  (0x1103, "cTIKEUTcSSANGTIKEUTcRIEULcMIEUMcPIEUPcSSANGPIEUPcSIOScSSANGSIOScIEUNGcCIEUC"),
  (0x110D, "cSSANGCIEUCcCHIEUCHcKHIEUKHcTHIEUTHcPHIEUPHcHIEUHcNIEUN-KIYEOKcSSANGNIEUN"),
  (0x1115, "cNIEUN-TIKEUTcNIEUN-PIEUPcTIKEUT-KIYEOKcRIEUL-NIEUNcSSANGRIEULcRIEUL-HIEUH"),
  (0x111B, "cKAPYEOUNRIEULcMIEUM-PIEUPcKAPYEOUNMIEUMcPIEUP-KIYEOKcPIEUP-NIEUNcPIEUP-TIKEUT"),
  (0x1121, "cPIEUP-SIOScPIEUP-SIOS-KIYEOKcPIEUP-SIOS-TIKEUTcPIEUP-SIOS-PIEUPcPIEUP-SSANGSIOS"),
  (0x1126, "cPIEUP-SIOS-CIEUCcPIEUP-CIEUCcPIEUP-CHIEUCHcPIEUP-THIEUTHcPIEUP-PHIEUPHcKAPYEOUNPIEUP"),
  (0x112C, "cKAPYEOUNSSANGPIEUPcSIOS-KIYEOKcSIOS-NIEUNcSIOS-TIKEUTcSIOS-RIEULcSIOS-MIEUM"),
  (0x1132, "cSIOS-PIEUPcSIOS-PIEUP-KIYEOKcSIOS-SSANGSIOScSIOS-IEUNGcSIOS-CIEUCcSIOS-CHIEUCH"),
  (0x1138, "cSIOS-KHIEUKHcSIOS-THIEUTHcSIOS-PHIEUPHcSIOS-HIEUHcCHITUEUMSIOScCHITUEUMSSANGSIOS"),
  (0x113E, "cCEONGCHIEUMSIOScCEONGCHIEUMSSANGSIOScPANSIOScIEUNG-KIYEOKcIEUNG-TIKEUTcIEUNG-MIEUM"),
  (0x1144, "cIEUNG-PIEUPcIEUNG-SIOScIEUNG-PANSIOScSSANGIEUNGcIEUNG-CIEUCcIEUNG-CHIEUCH"),
  (0x114A, "cIEUNG-THIEUTHcIEUNG-PHIEUPHcYESIEUNGcCIEUC-IEUNGcCHITUEUMCIEUCcCHITUEUMSSANGCIEUC"),
  (0x1150, "cCEONGCHIEUMCIEUCcCEONGCHIEUMSSANGCIEUCcCHIEUCH-KHIEUKHcCHIEUCH-HIEUHcCHITUEUMCHIEUCH"),
  (0x1155, "cCEONGCHIEUMCHIEUCHcPHIEUPH-PIEUPcKAPYEOUNPHIEUPHcSSANGHIEUHcYEORINHIEUH"),
  (0x115A, "cKIYEOK-TIKEUTcNIEUN-SIOScNIEUN-CIEUCcNIEUN-HIEUHcTIKEUT-RIEULcFILLERbJUNGSEONGncAcAE"),
  (0x1163, "cYAcYAEcEOcEcYEOcYEcOcWAcWAEcOEcYOcUcWEOcWEcWIcYUcEUcYIcIcA-OcA-UcYA-OcYA-YOcEO-O"),
  (0x117B, "cEO-UcEO-EUcYEO-OcYEO-UcO-EOcO-EcO-YEcO-OcO-UcYO-YAcYO-YAEcYO-YEOcYO-OcYO-IcU-AcU-AE"),
  (0x118B, "cU-EO-EUcU-YEcU-UcYU-AcYU-EOcYU-EcYU-YEOcYU-YEcYU-UcYU-IcEU-UcEU-EUcYI-UcI-AcI-YAcI-O"),
  (0x119B, "cI-UcI-EUcI-ARAEAcARAEAcARAEA-EOcARAEA-UcARAEA-IcSSANGARAEAcA-EUcYA-UcYEO-YAcO-YA"),
  (0x11A7, "cO-YAEbJONGSEONG KIYEOKcSSANGKIYEOKcKIYEOK-SIOScNIEUNcNIEUN-CIEUCcNIEUN-HIEUHcTIKEUT"),
  (0x11AF, "cRIEULcRIEUL-KIYEOKcRIEUL-MIEUMcRIEUL-PIEUPcRIEUL-SIOScRIEUL-THIEUTHcRIEUL-PHIEUPH"),
  (0x11B6, "cRIEUL-HIEUHcMIEUMcPIEUPcPIEUP-SIOScSIOScSSANGSIOScIEUNGcCIEUCcCHIEUCHcKHIEUKH"),
  (0x11C0, "cTHIEUTHcPHIEUPHcHIEUHcKIYEOK-RIEULcKIYEOK-SIOS-KIYEOKcNIEUN-KIYEOKcNIEUN-TIKEUT"),
  (0x11C7, "cNIEUN-SIOScNIEUN-PANSIOScNIEUN-THIEUTHcTIKEUT-KIYEOKcTIKEUT-RIEULcRIEUL-KIYEOK-SIOS"),
  (0x11CD, "cRIEUL-NIEUNcRIEUL-TIKEUTcRIEUL-TIKEUT-HIEUHcSSANGRIEULcRIEUL-MIEUM-KIYEOK"),
  (0x11D2, "cRIEUL-MIEUM-SIOScRIEUL-PIEUP-SIOScRIEUL-PIEUP-HIEUHcRIEUL-KAPYEOUNPIEUP"),
  (0x11D6, "cRIEUL-SSANGSIOScRIEUL-PANSIOScRIEUL-KHIEUKHcRIEUL-YEORINHIEUHcMIEUM-KIYEOK"),
  (0x11DB, "cMIEUM-RIEULcMIEUM-PIEUPcMIEUM-SIOScMIEUM-SSANGSIOScMIEUM-PANSIOScMIEUM-CHIEUCH"),
  (0x11E1, "cMIEUM-HIEUHcKAPYEOUNMIEUMcPIEUP-RIEULcPIEUP-PHIEUPHcPIEUP-HIEUHcKAPYEOUNPIEUP"),
  (0x11E7, "cSIOS-KIYEOKcSIOS-TIKEUTcSIOS-RIEULcSIOS-PIEUPcPANSIOScIEUNG-KIYEOKcIEUNG-SSANGKIYEOK"),
  (0x11EE, "cSSANGIEUNGcIEUNG-KHIEUKHcYESIEUNGcYESIEUNG-SIOScYESIEUNG-PANSIOScPHIEUPH-PIEUP"),
  (0x11F4, "cKAPYEOUNPHIEUPHcHIEUH-NIEUNcHIEUH-RIEULcHIEUH-MIEUMcHIEUH-PIEUPcYEORINHIEUH"),
  (0x11FA, "cKIYEOK-NIEUNcKIYEOK-PIEUPcKIYEOK-CHIEUCHcKIYEOK-KHIEUKHcKIYEOK-HIEUHcSSANGNIEUN"),
  (0x1200, "aETHIOPIC SYLLABLE HAcHUcHIcHAAcHEEcHEcHOcHOAcLAcLUcLIcLAAcLEEcLEcLOcLWAcHHAcHHUcHHI"),
  (0x1213, "cHHAAcHHEEcHHEcHHOcHHWAcMAcMUcMIcMAAcMEEcMEcMOcMWAcSZAcSZUcSZIcSZAAcSZEEcSZEcSZOcSZWA"),
  (0x1228, "cRAcRUcRIcRAAcREEcREcROcRWAcSAcSUcSIcSAAcSEEcSEcSOcSWAcSHAcSHUcSHIcSHAAcSHEEcSHEcSHO"),
  (0x123F, "cSHWAcQAcQUcQIcQAAcQEEcQEcQOcQOAcQWA"),
  (0x124A, "cQWIcQWAAcQWEEcQWE"),
  (0x1250, "cQHAcQHUcQHIcQHAAcQHEEcQHEcQHO"),
  (0x1258, "cQHWA"),
  (0x125A, "cQHWIcQHWAAcQHWEEcQHWE"),
  (0x1260, "cBAcBUcBIcBAAcBEEcBEcBOcBWAcVAcVUcVIcVAAcVEEcVEcVOcVWAcTAcTUcTIcTAAcTEEcTEcTOcTWAcCA"),
  (0x1279, "cCUcCIcCAAcCEEcCEcCOcCWAcXAcXUcXIcXAAcXEEcXEcXOcXOAcXWA"),
  (0x128A, "cXWIcXWAAcXWEEcXWE"),
  (0x1290, "cNAcNUcNIcNAAcNEEcNEcNOcNWAcNYAcNYUcNYIcNYAAcNYEEcNYEcNYOcNYWAcGLOTTAL AdUdIdAAdEEdE"),
  (0x12A6, "dOdWAcKAcKUcKIcKAAcKEEcKEcKOcKOAcKWA"),
  (0x12B2, "cKWIcKWAAcKWEEcKWE"),
  (0x12B8, "cKXAcKXUcKXIcKXAAcKXEEcKXEcKXO"),
  (0x12C0, "cKXWA"),
  (0x12C2, "cKXWIcKXWAAcKXWEEcKXWE"),
  (0x12C8, "cWAcWUcWIcWAAcWEEcWEcWOcWOAcPHARYNGEAL AdUdIdAAdEEdEdO"),
  (0x12D8, "cZAcZUcZIcZAAcZEEcZEcZOcZWAcZHAcZHUcZHIcZHAAcZHEEcZHEcZHOcZHWAcYAcYUcYIcYAAcYEEcYEcYO"),
  (0x12EF, "cYOAcDAcDUcDIcDAAcDEEcDEcDOcDWAcDDAcDDUcDDIcDDAAcDDEEcDDEcDDOcDDWAcJAcJUcJIcJAAcJEE"),
  (0x1305, "cJEcJOcJWAcGAcGUcGIcGAAcGEEcGEcGOcGOAcGWA"),
  (0x1312, "cGWIcGWAAcGWEEcGWE"),
  (0x1318, "cGGAcGGUcGGIcGGAAcGGEEcGGEcGGOcGGWAAcTHAcTHUcTHIcTHAAcTHEEcTHEcTHOcTHWAcCHAcCHUcCHI"),
  (0x132B, "cCHAAcCHEEcCHEcCHOcCHWAcPHAcPHUcPHIcPHAAcPHEEcPHEcPHOcPHWAcTSAcTSUcTSIcTSAAcTSEEcTSE"),
  (0x133E, "cTSOcTSWAcTZAcTZUcTZIcTZAAcTZEEcTZEcTZOcTZOAcFAcFUcFIcFAAcFEEcFEcFOcFWAcPAcPUcPIcPAA"),
  (0x1354, "cPEEcPEcPOcPWAcRYAcMYAcFYA"),
  (0x135D, "bCOMBINING GEMINATION AND VOWEL LENGTH MARKcpcGEMINATIONnbSECTIONnbWORDSPACE"),
  (0x1362, "bFULL STOPbCOMMAbSEMICOLONbCOLONbPREFACEnbQUESTION MARKbPARAGRAPH SEPARATORbDIGIT ONE"),
  (0x136A, "cTWOcTHREEcFOURcFIVEcSIXcSEVENcEIGHTcNINEbNUMBER TENcTWENTYcTHIRTYcFORTYcFIFTYcSIXTY"),
  (0x1378, "cSEVENTYcEIGHTYcNINETYcHUNDREDcTEN THOUSAND"),
  (0x1380, "bSYLLABLE SEBATBEIT MWAcMWIcMWEEcMWEcSEBATBEIT BWAcBWIcBWEEcBWEcSEBATBEIT FWAcFWI"),
  (0x138A, "cFWEEcFWEcSEBATBEIT PWAcPWIcPWEEcPWEbTONAL MARK YIZETdDERETdRIKRIKdSHORTndDIFATdKENAT"),
  (0x1396, "dCHIRETdHIDETdDERET-HIDETdKURT"),
  (0x13A0, "aCHEROKEE LETTER AcEcIcOcUcVcGAcKAcGEcGIcGOcGUcGVcHAcHEcHIcHOcHUcHVcLAcLEcLIcLOcLUcLV"),
  (0x13B9, "cMAcMEcMIcMOcMUcNAcHNAcNAHcNEcNIcNOcNUcNVcQUAcQUEcQUIcQUOcQUUcQUVcSAcScSEcSIcSOcSUcSV"),
  (0x13D3, "cDAcTAcDEcTEcDIcTIcDOcDUcDVcDLAcTLAcTLEcTLIcTLOcTLUcTLVcTSAcTSEcTSIcTSOcTSUcTSVcWAcWE"),
  (0x13EB, "cWIcWOcWUcWVcYAcYEcYIcYOcYUcYVcMV"),
  (0x13F8, "bSMALL LETTER YEdYIdYOdYUdYVdMV"),
  (0x1400, "aCANADIAN SYLLABICS HYPHENcEcAAIcIcIIcOcOOcY-CREEncCARRIER EEdIcAcAAcWEcWEST-CREEncWI"),
  (0x140F, "cWEST-CREEncWIIcWEST-CREEncWOcWEST-CREEncWOOcWEST-CREEncNASKAPIncWAcWEST-CREEncWAA"),
  (0x141A, "cWEST-CREEncNASKAPIncAIcY-CREE WcGLOTTAL STOPcFINAL ACUTEdGRAVEdBOTTOM HALF RINGdTOPo"),
  (0x1423, "dRIGHTodndDOUBLE ACUTEeSHORT VERTICAL STROKESdMIDDLE DOTdSHORT HORIZONTAL STROKEdPLUS"),
  (0x142A, "dDOWN TACKcENcINcONcANcPEcPAAIcPIcPIIcPOcPOOcY-CREEncCARRIER HEEdHIcPAcPAAcPWE"),
  (0x143B, "cWEST-CREEncPWIcWEST-CREEncPWIIcWEST-CREEncPWOcWEST-CREEncPWOOcWEST-CREEncPWA"),
  (0x1445, "cWEST-CREEncPWAAcWEST-CREEncY-CREEncPcWEST-CREEncCARRIER HcTEcTAAIcTIcTIIcTOcTOO"),
  (0x1452, "cY-CREEncCARRIER DEEdDIcTAcTAAcTWEcWEST-CREEncTWIcWEST-CREEncTWIIcWEST-CREEncTWO"),
  (0x145E, "cWEST-CREEncTWOOcWEST-CREEncTWAcWEST-CREEncTWAAcWEST-CREEncNASKAPIncTcTTEcTTIcTTOcTTA"),
  (0x146B, "cKEcKAAIcKIcKIIcKOcKOOcY-CREEncKAcKAAcKWEcWEST-CREEncKWIcWEST-CREEncKWIIcWEST-CREEn"),
  (0x147A, "cKWOcWEST-CREEncKWOOcWEST-CREEncKWAcWEST-CREEncKWAAcWEST-CREEncNASKAPIncKcKW"),
  (0x1485, "cSOUTH-SLAVEY KEHdKIHdKOHdKAHcCEcCAAIcCIcCIIcCOcCOOcY-CREEncCAcCAAcCWEcWEST-CREEncCWI"),
  (0x1495, "cWEST-CREEncCWIIcWEST-CREEncCWOcWEST-CREEncCWOOcWEST-CREEncCWAcWEST-CREEncCWAA"),
  (0x149F, "cWEST-CREEncNASKAPIncCcSAYISI THcMEcMAAIcMIcMIIcMOcMOOcY-CREEncMAcMAAcMWEcWEST-CREEn"),
  (0x14AE, "cMWIcWEST-CREEncMWIIcWEST-CREEncMWOcWEST-CREEncMWOOcWEST-CREEncMWAcWEST-CREEncMWAA"),
  (0x14B9, "cWEST-CREEncNASKAPIncMcWEST-CREEncMHcATHAPASCAN McSAYISIncNEcNAAIcNIcNIIcNOcNOO"),
  (0x14C6, "cY-CREEncNAcNAAcNWEcWEST-CREEncNWAcWEST-CREEncNWAAcWEST-CREEncNASKAPIncNcCARRIER NG"),
  (0x14D2, "cNHcLEcLAAIcLIcLIIcLOcLOOcY-CREEncLAcLAAcLWEcWEST-CREEncLWIcWEST-CREEncLWII"),
  (0x14E1, "cWEST-CREEncLWOcWEST-CREEncLWOOcWEST-CREEncLWAcWEST-CREEncLWAAcWEST-CREEncL"),
  (0x14EB, "cWEST-CREEncMEDIALncSEcSAAIcSIcSIIcSOcSOOcY-CREEncSAcSAAcSWEcWEST-CREEncSWI"),
  (0x14F9, "cWEST-CREEncSWIIcWEST-CREEncSWOcWEST-CREEncSWOOcWEST-CREEncSWAcWEST-CREEncSWAA"),
  (0x1503, "cWEST-CREEncNASKAPIncScATHAPASCANncSWcBLACKFOOT ScMOOSE-CREE SKcNASKAPI SKWdS-WdSPWA"),
  (0x150D, "dSTWAdSKWAdSCWAcSHEcSHIcSHIIcSHOcSHOOcSHAcSHAAcSHWEcWEST-CREEncSHWIcWEST-CREEncSHWII"),
  (0x151C, "cWEST-CREEncSHWOcWEST-CREEncSHWOOcWEST-CREEncSHWAcWEST-CREEncSHWAAcWEST-CREEncSHcYE"),
  (0x1527, "cYAAIcYIcYIIcYOcYOOcY-CREEncYAcYAAcYWEcWEST-CREEncYWIcWEST-CREEncYWIIcWEST-CREEncYWO"),
  (0x1536, "cWEST-CREEncYWOOcWEST-CREEncYWAcWEST-CREEncYWAAcWEST-CREEncNASKAPIncYcBIBLE-CREEn"),
  (0x1540, "cWEST-CREEncSAYISI YIcREcR-CREEncWEST-CREE LEcRAAIcRIcRIIcROcROOcWEST-CREE LOcRAcRAA"),
  (0x154D, "cWEST-CREE LAcRWAAcWEST-CREEncRcWEST-CREEncMEDIALncFEcFAAIcFIcFIIcFOcFOOcFAcFAAcFWAA"),
  (0x155C, "cWEST-CREEncFcTHEcN-CREEncTHIcN-CREEncTHIIcN-CREEncTHOcTHOOcTHAcTHAAcTHWAAcWEST-CREEn"),
  (0x156A, "cTHcTTHEcTTHIcTTHOcTTHAcTTHcTYEcTYIcTYOcTYAcNUNAVIK HEdHIdHIIdHOdHOOdHAdHAAdH"),
  (0x157C, "cNUNAVUTncHKcQAAIcQIcQIIcQOcQOOcQAcQAAcQcTLHEcTLHIcTLHOcTLHAcWEST-CREE REdRIdROdRA"),
  (0x158E, "cNGAAIcNGIcNGIIcNGOcNGOOcNGAcNGAAcNGcNNGcSAYISI SHEdSHIdSHOdSHAcWOODS-CREE THEdTHI"),
  (0x159D, "dTHOdTHAdTHcLHIcLHIIcLHOcLHOOcLHAcLHAAcLHcTH-CREE THEdTHIdTHIIdTHOdTHOOdTHAdTHAAdTH"),
  (0x15AF, "cAIVILIK BcBLACKFOOT EdIdOdAdWEdWIdWOdWAdNEdNIdNOdNAdKEdKIdKOdKAcSAYISI HEdHIdHOdHA"),
  (0x15C4, "cCARRIER GHUdGHOdGHEdGHEEdGHIdGHAdRUdROdREdREEdRIdRAdWUdWOdWEdWEEdWIdWAdHWUdHWOdHWE"),
  (0x15D9, "dHWEEdHWIdHWAdTHUdTHOdTHEdTHEEdTHIdTHAdTTUdTTOdTTEdTTEEdTTIdTTAdPUdPOdPEdPEEdPIdPAdP"),
  (0x15EF, "dGUdGOdGEdGEEdGIdGAdKHUdKHOdKHEdKHEEdKHIdKHAdKKUdKKOdKKEdKKEEdKKIdKKAdKKdNUdNOdNEdNEE"),
  (0x1606, "dNIdNAdMUdMOdMEdMEEdMIdMAdYUdYOdYEdYEEdYIdYAdJUcSAYISIncCARRIER JOdJEdJEEdJIcSAYISIn"),
  (0x161B, "cCARRIER JAdJJUdJJOdJJEdJJEEdJJIdJJAdLUdLOdLEdLEEdLIdLAdDLUdDLOdDLEdDLEEdDLIdDLAdLHU"),
  (0x162F, "dLHOdLHEdLHEEdLHIdLHAdTLHUdTLHOdTLHEdTLHEEdTLHIdTLHAdTLUdTLOdTLEdTLEEdTLIdTLAdZUdZO"),
  (0x1642, "dZEdZEEdZIdZAdZdINITIALndDZUdDZOdDZEdDZEEdDZIdDZAdSUdSOdSEdSEEdSIdSAdSHUdSHOdSHEdSHEE"),
  (0x1658, "dSHIdSHAdSHdTSUdTSOdTSEdTSEEdTSIdTSAdCHUdCHOdCHEdCHEEdCHIdCHAdTTSUdTTSOdTTSEdTTSEE"),
  (0x166B, "dTTSIdTTSAcCHI SIGNcFULL STOPcQAIcNGAIcNNGIcNNGIIcNNGOcNNGOOcNNGAcNNGAA"),
  (0x1677, "cWOODS-CREE THWEEdTHWIdTHWIIdTHWOdTHWOOdTHWAdTHWAAdFINAL THcBLACKFOOT W"),
  (0x1680, "aOGHAM SPACE MARKbLETTER BEITHcLUIScFEARNcSAILcNIONcUATHcDAIRcTINNEcCOLLcCEIRTcMUIN"),
  (0x168C, "cGORTcNGEADALcSTRAIFcRUIScAILMcONNcURcEADHADHcIODHADHcEABHADHcORcUILLEANNcIFIN"),
  (0x1699, "cEAMHANCHOLLcPEITHbFEATHER MARKbREVERSEDo"),
  (0x16A0, "aRUNIC LETTER FEHU FEOH FE FcVcURUZ UR UcYRcYcWcTHURISAZ THURS THORNcETHcANSUZ AcOS O"),
  (0x16AA, "cAC AcAESCcLONG-BRANCH-OSS OcSHORT-TWIG-OSSncncOEcONcRAIDO RAD REID RcKAUNAcCEN"),
  (0x16B4, "cKAUN KcGcENGcGEBO GYFU GcGARcWUNJO WYNN WcHAGLAZ HcHAEGLncLONG-BRANCH-HAGALLn"),
  (0x16BD, "cSHORT-TWIG-HAGALLncNAUDIZ NYD NAUD NcSHORT-TWIG-NAUDncDOTTED-NcISAZ IS ISS IcE"),
  (0x16C3, "cJERAN JcGERcLONG-BRANCH-AR AEcSHORT-TWIG-AR AcIWAZ EOHcPERTHO PEORTH PcALGIZ EOLHX"),
  (0x16CA, "cSOWILO ScSIGEL LONG-BRANCH-SOLncSHORT-TWIG-SOLncCcZcTIWAZ TIR TYR TcSHORT-TWIG-TYRn"),
  (0x16D1, "cDcBERKANAN BEORC BJARKAN BcSHORT-TWIG-BJARKANncDOTTED-PcOPEN-PcEHWAZ EH E"),
  (0x16D7, "cMANNAZ MAN McLONG-BRANCH-MADRncSHORT-TWIG-MADRncLAUKAZ LAGU LOGR LcDOTTED-LcINGWAZ"),
  (0x16DD, "cINGcDAGAZ DAEG DcOTHALAN ETHEL OcEARcIORcCWEORTHcCALCcCEALCcSTANcLONG-BRANCH-YR"),
  (0x16E7, "cSHORT-TWIG-YRcICELANDIC-YRcQcXbSINGLE PUNCTUATIONbMULTIPLEnbCROSSnbARLAUG SYMBOL"),
  (0x16EF, "bTVIMADURnbBELGTHORnbLETTER KcSHcOOcFRANKS CASKET OSeISeEHeACeAESC"),
  (0x1700, "aTAGALOG LETTER AcIcUcKAcGAcNGAcTAcDAcNAcPAcBAcMAcYAcRAcLAcWAcSAcHAbVOWEL SIGN IdU"),
  (0x1714, "bSIGN VIRAMAcPAMUDPOD"),
  (0x171F, "bLETTER ARCHAIC RAaHANUNOO LETTER AcIcUcKAcGAcNGAcTAcDAcNAcPAcBAcMAcYAcRAcLAcWAcSAcHA"),
  (0x1732, "bVOWEL SIGN IdUbSIGN PAMUDPODaPHILIPPINE SINGLE PUNCTUATIONbDOUBLEn"),
  (0x1740, "aBUHID LETTER AcIcUcKAcGAcNGAcTAcDAcNAcPAcBAcMAcYAcRAcLAcWAcSAcHAbVOWEL SIGN IdU"),
  (0x1760, "aTAGBANWA LETTER AcIcUcKAcGAcNGAcTAcDAcNAcPAcBAcMAcYA"),
  (0x176E, "cLAcWAcSA"),
  (0x1772, "bVOWEL SIGN IdU"),
  (0x1780, "aKHMER LETTER KAcKHAcKOcKHOcNGOcCAcCHAcCOcCHOcNYOcDAcTTHAcDOcTTHOcNNOcTAcTHAcTOcTHO"),
  (0x1793, "cNOcBAcPHAcPOcPHOcMOcYOcROcLOcVOcSHAcSSOcSAcHAcLAcQAbINDEPENDENT VOWEL QAQdQAAdQIdQII"),
  (0x17A7, "dQUdQUKdQUUdQUUVdRYdRYYdLYdLYYdQEdQAIdQOO TYPE ONEfTWOdQAUbVOWEL INHERENT AQdAAcSIGNn"),
  (0x17B7, "dIdIIdYdYYdUdUUdUAdOEdYAdIEdEdAEdAIdOOdAUbSIGN NIKAHITcREAHMUKcYUUKALEAPINTU"),
  (0x17C9, "cMUUSIKATOANcTRIISAPcBANTOCcROBATcTOANDAKHIATcKAKABATcAHSDAcSAMYOK SANNYAcVIRIAM"),
  (0x17D2, "cCOENGcBATHAMASATcKHANcBARIYOOSANcCAMNUC PII KUUHcLEK TOOcBEYYALcPHNAEK MUANcKOOMUUT"),
  (0x17DB, "bCURRENCY SYMBOL RIELbSIGN AVAKRAHASANYAcATTHACAN"),
  (0x17E0, "bDIGIT ZEROcONEcTWOcTHREEcFOURcFIVEcSIXcSEVENcEIGHTcNINE"),
  (0x17F0, "bSYMBOL LEK ATTAK SONeMUOYePIIeBEIeBUONePRAMePRAM-MUOYePRAM-PIIePRAM-BEIePRAM-BUON"),
  (0x1800, "aMONGOLIAN BIRGAbELLIPSISbCOMMAbFULL STOPbCOLONbFOUR DOTSbTODO SOFT HYPHEN"),
  (0x1807, "bSIBE SYLLABLE BOUNDARY MARKERbMANCHU COMMAcFULL STOPbNIRUGU"),
  (0x180B, "bFREE VARIATION SELECTOR ONEeTWOeTHREEbVOWEL SEPARATORbFREE VARIATION SELECTOR FOUR"),
  (0x1810, "bDIGIT ZEROcONEcTWOcTHREEcFOURcFIVEcSIXcSEVENcEIGHTcNINE"),
  (0x1820, "bLETTER AcEcIcOcUcOEcUEcEEcNAcANGcBAcPAcQAcGAcMAcLAcSAcSHAcTAcDAcCHAcJAcYAcRAcWAcFA"),
  (0x183A, "cKAcKHAcTSAcZAcHAAcZRAcLHAcZHIcCHIcTODO LONG VOWEL SIGNdEdIdOdUdOEdUEdANGdBAdPAdQAdGA"),
  (0x184F, "dMAdTAdDAdCHAdJAdTSAdYAdWAdKAdGAAdHAAdJIAdNIAdDZAcSIBE EdIdIYdUEdUdANGdKAdGAdHAdPA"),
  (0x1867, "dSHAdTAdDAdJAdFAdGAAdHAAdTSAdZAdRAAdCHAdZHAcMANCHU IdKAdRAdFAdZHAcCHA WITH TWO DOTS"),
  (0x1880, "cALI GALI ANUSVARA ONEeVISARGAneDAMARUeUBADAMAeINVERTEDneBALUDAeTHREEneAeIeKAeNGAeCA"),
  (0x188C, "eTTAeTTHAeDDAeNNAeTAeDAePAePHAeSSAeZHAeZAeAHcTODO ALI GALI TAfZHAcMANCHU ALI GALI GHA"),
  (0x189B, "fNGAfCAfJHAfTTAfDDHAfTAfDHAfSSAfCYAfZHAfZAcALI GALI HALF UfYAcMANCHU ALI GALI BHA"),
  (0x18A9, "cALI GALI DAGALGAcMANCHU ALI GALI LHA"),
  (0x18B0, "aCANADIAN SYLLABICS OYcAYcAAYcWAYcPOYcPAYcPWOYcTAYcKAYcKWAYcMAYcNOYcNAYcLAYcSOYcSAY"),
  (0x18C0, "cSHOYcSHAYcSHWOYcYOYcYAYcRAYcNWIcOJIBWAYncNWIIcOJIBWAYncNWOcOJIBWAYncNWOOcOJIBWAYn"),
  (0x18CE, "cRWEEcRWIcRWIIcRWOcRWOOcRWAcOJIBWAY PdTdKdCdMdNdSdSHcEASTERN WcWESTERNn"),
  (0x18DE, "cFINAL SMALL RINGdRAISED DOTcR-CREE RWEcWEST-CREE LOOdLAAcTHWEcTHWAcTTHWEcTTHOOcTTHAA"),
  (0x18E8, "cTLHWEcTLHOOcSAYISI SHWEdSHOOdHOOcCARRIER GWUdDENE GEEdGAAdGWAcSAYISI JUUcCARRIER JWA"),
  (0x18F3, "cBEAVER DENE LeRcCARRIER DENTAL S"),
  (0x1900, "aLIMBU VOWEL-CARRIER LETTERbLETTER KAcKHAcGAcGHAcNGAcCAcCHAcJAcJHAcYANcTAcTHAcDAcDHA"),
  (0x190F, "cNAcPAcPHAcBAcBHAcMAcYAcRAcLAcWAcSHAcSSAcSAcHAcGYANcTRA"),
  (0x1920, "bVOWEL SIGN AdIdUdEEdAIdOOdAUdEdObSUBJOINED LETTER YAdRAdWA"),
  (0x1930, "bSMALL LETTER KAdNGAdANUSVARAdTAdNAdPAdMAdRAdLAbSIGN MUKPHRENGcKEMPHRENGcSA-I"),
  (0x1940, "cLOO"),
  (0x1944, "bEXCLAMATION MARKbQUESTIONnbDIGIT ZEROcONEcTWOcTHREEcFOURcFIVEcSIXcSEVENcEIGHTcNINE"),
  (0x1950, "aTAI LE LETTER KAdXAdNGAdTSAdSAdYAdTAdTHAdLAdPAdPHAdMAdFAdVAdHAdQAdKHAdTSHAdNAdAdIdEE"),
  (0x1966, "dEHdUdOOdOdUEdEdAUEdAI"),
  (0x1970, "dTONE-2dTONE-3dTONE-4dTONE-5dTONE-6"),
  (0x1980, "aNEW TAI LUE LETTER HIGH QAeLOWneHIGH KAfXAfNGAeLOW KAfXAfNGAeHIGH TSAfSAfYAeLOW TSA"),
  (0x198C, "fSAfYAeHIGH TAfTHAfNAeLOW TAfTHAfNAeHIGH PAfPHAfMAeLOW PAfPHAfMAeHIGH FAfVAfLAeLOW FA"),
  (0x199E, "fVAfLAeHIGH HAfDAfBAeLOW HAfDAfBAeHIGH KVAfXVAeLOW KVAfXVAeHIGH SUAeLOWn"),
  (0x19B0, "dVOWEL SIGN VOWEL SHORTENERfAAfIIfUfUUfEfAEfOfOAfUEfAYfAAYfUYfOYfOAYfUEYfIY"),
  (0x19C1, "dLETTER FINAL VfNGfNfMfKfDfBdTONE MARK-1eMARK-2"),
  (0x19D0, "dDIGIT ZEROeONEeTWOeTHREEeFOUReFIVEeSIXeSEVENeEIGHTeNINEdTHAM DIGIT ONE"),
  (0x19DE, "dSIGN LAEeLAEVaKHMER SYMBOL PATHAMASATcMUOY KOETcPIIncBEIncBUONncPRAMncPRAM-MUOYn"),
  (0x19E7, "cPRAM-PIIncPRAM-BEIncPRAM-BUONncDAPncDAP-MUOYncDAP-PIIncDAP-BEIncDAP-BUONncDAP-PRAMn"),
  (0x19F0, "cTUTEYASATcMUOY ROCcPIIncBEIncBUONncPRAMncPRAM-MUOYncPRAM-PIIncPRAM-BEIncPRAM-BUONn"),
  (0x19FA, "cDAPncDAP-MUOYncDAP-PIIncDAP-BEIncDAP-BUONncDAP-PRAMnaBUGINESE LETTER KAcGAcNGAcNGKA"),
  (0x1A04, "cPAcBAcMAcMPAcTAcDAcNAcNRAcCAcJAcNYAcNYCAcYAcRAcLAcVAcSAcAcHAbVOWEL SIGN IdUdEdOdAE"),
  (0x1A1E, "bPALLAWAbEND OF SECTIONaTAI THAM LETTER HIGH KAeKHAeKXAdLOW KAeKXAeKHAdNGAdHIGH CA"),
  (0x1A28, "eCHAdLOW CAeSAeCHAdNYAdRATAdHIGH RATHAdDAdLOW RATHAdRANAdHIGH TAeTHAdLOW TAeTHAdNAdBA"),
  (0x1A38, "dHIGH PAePHAeFAdLOW PAeFAePHAdMAdLOW YAdHIGHndRAdRUEdLAdLUEdWAdHIGH SHAeSSAeSAeHAdLLA"),
  (0x1A4B, "dAdLOW HAdIdIIdUdUUdEEdOOdLAEdGREAT SAcCONSONANT SIGN MEDIAL RAfLAeLA TANG LAI"),
  (0x1A58, "cSIGN MAI KANGncCONSONANT SIGN FINAL NGAeLOW PAeHIGH RATHA ORoeMAeBAeSA"),
  (0x1A60, "cSIGN SAKOTcVOWEL SIGN AeMAI SATeAAeTALLneIeIIeUEeUUEeUeUUeOeOA BELOWeOYeEeAEeOOeAI"),
  (0x1A72, "eTHAMneOA ABOVEcSIGN MAI KANGdTONE-1dTONE-2dKHUEN TONE-3eTONE-4eTONE-5dRA HAAM"),
  (0x1A7B, "dMAI SAMdKHUEN-LUE KARAN"),
  (0x1A7F, "cCOMBINING CRYPTOGRAMMIC DOTcHORA DIGIT ZEROeONEeTWOeTHREEeFOUReFIVEeSIXeSEVENeEIGHT"),
  (0x1A89, "eNINE"),
  (0x1A90, "cTHAM DIGIT ZEROeONEeTWOeTHREEeFOUReFIVEeSIXeSEVENeEIGHTeNINE"),
  (0x1AA0, "cSIGN WIANGdWIANGWAAKdSAWANdKEOWdHOYdDOKMAIdREVERSED ROTATED RANAdMAI YAMOKdKAAN"),
  (0x1AA9, "dKAANKUUdSATKAANdSATKAANKUUdHANGdCAANG"),
  (0x1AB0, "aCOMBINING DOUBLED CIRCUMFLEX ACCENTbDIAERESIS-RINGbINFINITYbDOWNWARDS ARROW"),
  (0x1AB4, "bTRIPLE DOTbX-X BELOWbWIGGLY LINEnbOPEN MARKnbDOUBLEpbLIGHT CENTRALIZATION STROKEn"),
  (0x1ABA, "bSTRONGpbPARENTHESES ABOVEbDOUBLEobPARENTHESES BELOWcOVERLAY"),
  (0x1ABF, "bLATIN SMALL LETTER W BELOWeTURNEDobLEFT PARENTHESIS ABOVE LEFT"),
  (0x1AC2, "bRIGHT PARENTHESIS ABOVE RIGHTbLEFT PARENTHESIS BELOW LEFT"),
  (0x1AC4, "bRIGHT PARENTHESIS BELOW RIGHTbSQUARE BRACKETS ABOVEbNUMBER SIGNn"),
  (0x1AC7, "bINVERTED DOUBLE ARCHnbPLUS SIGNnbDOUBLEpeBELOWbTRIPLE ACUTE ACCENT"),
  (0x1ACC, "bLATIN SMALL LETTER INSULAR GfRfT"),
  (0x1B00, "aBALINESE SIGN ULU RICEMdCANDRAcCECEKcSURANGcBISAHbLETTER AKARAdTEDUNGcIKARAdTEDUNG"),
  (0x1B09, "cUKARAdTEDUNGcRA REPAeTEDUNGcLA LENGAeTEDUNGcEKARAcAIKARAcOKARAdTEDUNGcKAdMAHAPRANA"),
  (0x1B15, "cGAdGORAcNGAcCAdLACAcJAdJERAcNYAcTA LATIKdMURDA MAHAPRANAcDA MURDA ALPAPRANA"),
  (0x1B20, "eMAHAPRANAcNA RAMBATcTAdTAWAcDAdMADUcNAcPAdKAPALcBAdKEMBANGcMAcYAcRAcLAcWAcSA SAGA"),
  (0x1B31, "dSAPAdcHAbSIGN REREKANbVOWEL SIGN TEDUNGdULUeSARIdSUKUeILUTdRA REPAfTEDUNGdLA LENGA"),
  (0x1B3D, "fTEDUNGdTALINGeREPAeTEDUNGeREPAndPEPETeTEDUNGbADEG ADEGbLETTER KAF SASAKcKHOTncTZIRn"),
  (0x1B48, "cEFncVEncZALncASYURAncARCHAIC JNYA"),
  (0x1B50, "bDIGIT ZEROcONEcTWOcTHREEcFOURcFIVEcSIXcSEVENcEIGHTcNINEbPANTIbPAMADAbWINDU"),
  (0x1B5D, "bCARIK PAMUNGKAHcSIKIcPARERENbPAMENENGbMUSICAL SYMBOL DONGdDENGdDUNGdDANGeSURANGdDING"),
  (0x1B67, "dDAENGdDEUNGdDAINGdDANG GEDEdCOMBINING TEGEHeENDEPeKEMPULeKEMPLIeJEGOGANeKEMPUL WITHn"),
  (0x1B71, "eKEMPLIoeBENDEeGONGdRIGHT-HAND OPEN DUGfDAGeCLOSED TUKfTAKdLEFT-HAND OPEN PANGfPUNG"),
  (0x1B7A, "eCLOSED PLAKfPLUKeOPEN PINGbPANTI LANTANGbPAMADAn"),
  (0x1B80, "aSUNDANESE SIGN PANYECEKcPANGLAYARcPANGWISADbLETTER AcIcUcAEcOcEcEUcKAcQAcGAcNGAcCA"),
  (0x1B8F, "cJAcZAcNYAcTAcDAcNAcPAcFAcVAcBAcMAcYAcRAcLAcWAcSAcXAcHAbCONSONANT SIGN PAMINGKAL"),
  (0x1BA2, "dPANYAKRAdPANYIKUbVOWEL SIGN PANGHULUdPANYUKUdPANAELAENGdPANOLONGdPAMEPETdPANEULEUNG"),
  (0x1BAA, "bSIGN PAMAAEHcVIRAMAbCONSONANT SIGN PASANGAN MAeWAbLETTER KHAcSYAbDIGIT ZEROcONEcTWO"),
  (0x1BB3, "cTHREEcFOURcFIVEcSIXcSEVENcEIGHTcNINEbAVAGRAHAbLETTER REUcLEUcBHAcFINAL KdM"),
  (0x1BC0, "aBATAK LETTER AcSIMALUNGUNncHAcSIMALUNGUNncMANDAILINGncBAcKAROncPAcSIMALUNGUNncNA"),
  (0x1BCA, "cMANDAILINGncWAcSIMALUNGUNncPAKPAKncGAcSIMALUNGUNncJAcDAcRAcSIMALUNGUNncMA"),
  (0x1BD5, "cSIMALUNGUNncSOUTHERN TAcNORTHERNncSAcSIMALUNGUNncMANDAILINGncYAcSIMALUNGUNncNGAcLA"),
  (0x1BDF, "cSIMALUNGUNncNYAcCAcNDAcMBAcIcUbSIGN TOMPIbVOWEL SIGN EdPAKPAKndEEdIdKAROndOdKAROndU"),
  (0x1BEF, "eFOR SIMALUNGUN SAbCONSONANT SIGN NGdHbPANGOLATbPANONGONAN"),
  (0x1BFC, "bSYMBOL BINDU NA METEKdPINARBORASdJUDULdPANGOLATaLEPCHA LETTER KAcKLAcKHAcGAcGLAcNGA"),
  (0x1C06, "cCAcCHAcJAcNYAcTAcTHAcDAcNAcPAcPLAcPHAcFAcFLAcBAcBLAcMAcMLAcTSAcTSHAcDZAcYAcRAcLAcHA"),
  (0x1C1E, "cHLAcVAcSAcSHAcWAcAbSUBJOINED LETTER YAdRAbVOWEL SIGN AAdIdOdOOdUdUUdE"),
  (0x1C2D, "bCONSONANT SIGN KdMdLdNdPdRdTdNYIN-DOdKANGbSIGN RANcNUKTA"),
  (0x1C3B, "bPUNCTUATION TA-ROLcNYET THYOOMncCER-WAcTSHOOKndbDIGIT ZEROcONEcTWOcTHREEcFOURcFIVE"),
  (0x1C46, "cSIXcSEVENcEIGHTcNINE"),
  (0x1C4D, "bLETTER TTAcTTHAcDDAaOL CHIKI DIGIT ZEROdONEdTWOdTHREEdFOURdFIVEdSIXdSEVENdEIGHTdNINE"),
  (0x1C5A, "cLETTER LAdATdAGdANGdALdLAAdAAKdAAJdAAMdAAWdLIdISdIHdINYdIRdLUdUCdUDdUNNdUYdLEdEPdEDD"),
  (0x1C71, "dENdERRdLOdOTTdOBdOVdOHcMU TTUDDAGcGAAHLAA TTUDDAAGcMU-GAAHLAAncRELAAcPHAARKAAcAHAD"),
  (0x1C7E, "cPUNCTUATION MUCAADdDOUBLEnaCYRILLIC SMALL LETTER ROUNDED VEdLONG-LEGGED DEdNARROW O"),
  (0x1C83, "dWIDE ESdTALL TEdTHREE-LEGGEDndTALL HARD SIGNeYATdUNBLENDED UK"),
  (0x1C90, "aGEORGIAN MTAVRULI CAPITAL LETTER ANeBANeGANeDONeENeVINeZENeTANeINeKANeLASeMANeNAReON"),
  (0x1C9E, "ePAReZHAReRAEeSANeTAReUNePHAReKHAReGHANeQAReSHINeCHINeCANeJILeCILeCHAReXANeJHANeHAE"),
  (0x1CB1, "eHEeHIEeWEeHAReHOEeFIeYNeELIFIeTURNED GANeAIN"),
  (0x1CBD, "eAENeHARD SIGNeLABIALnaSUNDANESE PUNCTUATION BINDU SURYAdPANGLONGdPURNAMAdCAKRA"),
  (0x1CC4, "dLEU SATANGAdKAndDAndBAn"),
  (0x1CD0, "aVEDIC TONE KARSHANAcSHARAcPRENKHAbSIGN NIHSHVASAcYAJURVEDIC MIDLINE SVARITA"),
  (0x1CD5, "bTONE YAJURVEDIC AGGRAVATED INDEPENDENTndodKATHAKAocCANDRA BELOW"),
  (0x1CD9, "cYAJURVEDIC KATHAKA INDEPENDENT SVARITA SCHROEDERcDOUBLE SVARITAcTRIPLEn"),
  (0x1CDC, "cKATHAKA ANUDATTAcDOT BELOWcTWO DOTSncTHREEocRIGVEDIC KASHMIRI INDEPENDENT SVARITA"),
  (0x1CE1, "cATHARVAVEDICobSIGN VISARGAndUDATTAcREVERSEDocVISARGA ANUDATTAcREVERSEDo"),
  (0x1CE7, "cVISARGA UDATTA WITH TAILdANUDATTAocANUSVARA ANTARGOMUKHAdBAHIRGOMUKHAdVAMAGOMUKHA"),
  (0x1CEC, "eWITH TAILcTIRYAKcHEXIFORM LONG ANUSVARAcocRTHANGocANUSVARA UBHAYATO MUKHA"),
  (0x1CF2, "cARDHAVISARGAcROTATEDnbTONE CANDRA ABOVEbSIGN JIHVAMULIYAcUPADHMANIYAcATIKRAMA"),
  (0x1CF8, "bTONE RING ABOVEcDOUBLEobSIGN DOUBLE ANUSVARA ANTARGOMUKHA"),
  (0x1D00, "aLATIN LETTER SMALL CAPITAL AeAEbSMALL LETTER TURNEDnbLETTER SMALL CAPITAL BARRED BeC"),
  (0x1D05, "eDeETHeEbSMALL LETTER TURNED OPENneIbLETTER SMALL CAPITAL JeKeL WITH STROKEeM"),
  (0x1D0E, "eREVERSED NeOeOPENnbSMALL LETTER SIDEWAYSneOPENneO WITH STROKEdTURNED OE"),
  (0x1D15, "bLETTER SMALL CAPITAL OUbSMALL LETTER TOP HALF OdBOTTOMobLETTER SMALL CAPITAL P"),
  (0x1D19, "eREVERSED ReTURNEDneTeUbSMALL LETTER SIDEWAYSneDIAERESIZEDneTURNED M"),
  (0x1D20, "bLETTER SMALL CAPITAL VeWeZeEZHcVOICED LARYNGEAL SPIRANTcAIN"),
  (0x1D26, "aGREEK LETTER SMALL CAPITAL GAMMAeLAMDAePIeRHOePSIaCYRILLIC LETTER SMALL CAPITAL EL"),
  (0x1D2C, "aMODIFIER LETTER CAPITAL AdAEdBdBARREDndDdEdREVERSEDndGdHdIdJdKdLdMdNdREVERSEDndOdOU"),
  (0x1D3E, "dPdRdTdUdWcSMALL AdTURNEDndALPHAdTURNED AEdBdDdEdSCHWAdOPEN EdTURNEDodGdTURNED IdKdM"),
  (0x1D51, "dENGdOdOPENndTOP HALFndBOTTOModPdTdUdSIDEWAYSndTURNED MdVdAINdBETAdGREEK GAMMAdDELTA"),
  (0x1D60, "dGREEK PHIdCHIaLATIN SUBSCRIPT SMALL LETTER IeReUeVaGREEK SUBSCRIPT SMALL LETTER BETA"),
  (0x1D67, "eGAMMAeRHOePHIeCHIaLATIN SMALL LETTER UEdB WITH MIDDLE TILDEdDpdFpdMpdNpdPpdRp"),
  (0x1D73, "fFISHHOOK ANDodS WITHodTpdZpdTURNED GaMODIFIER LETTER CYRILLIC EN"),
  (0x1D79, "aLATIN SMALL LETTER INSULAR GdTH WITH STRIKETHROUGHcCAPITAL LETTER I WITH STROKE"),
  (0x1D7C, "cLETTER IOTAodPocCAPITAL LETTER UocLETTER UPSILONodB WITH PALATAL HOOKdDpdFpdGpdKpdLp"),
  (0x1D86, "dMpdNpdPpdRpdSpdESHpdVpdXpdZpdA WITH RETROFLEXndALPHApdD WITH HOOK AND TAIL"),
  (0x1D92, "dE WITH RETROFLEX HOOKdOPENqdREVERSEDrdSCHWApdIpdOPEN OpdESHpdUpdEZHp"),
  (0x1D9B, "aMODIFIER LETTER SMALL TURNED ALPHAdCeWITH CURLdETHdREVERSED OPEN EdF"),
  (0x1DA1, "dDOTLESS J WITH STROKEdSCRIPT GdTURNED HdI WITH STROKEdIOTAdCAPITAL IfWITH STROKE"),
  (0x1DA8, "dJ WITH CROSSED-TAILdL WITH RETROFLEX HOOKfPALATALndCAPITAL LdM WITH HOOK"),
  (0x1DAD, "dTURNED M WITH LONG LEGdN WITH LEFT HOOKfRETROFLEXndCAPITAL NdBARRED OdPHI"),
  (0x1DB3, "dS WITH HOOKdESHdT WITH PALATAL HOOKdU BARdUPSILONdCAPITAL UdV WITH HOOKdTURNED VdZ"),
  (0x1DBC, "eWITH RETROFLEX HOOKfCURLdEZHdTHETAaCOMBINING DOTTED GRAVE ACCENTcACUTEnbSNAKE BELOW"),
  (0x1DC3, "bSUSPENSION MARKbMACRON-ACUTEbGRAVE-MACRONbMACRON-GRAVEbACUTE-MACRON"),
  (0x1DC8, "bGRAVE-ACUTE-GRAVEbACUTE-GRAVE-ACUTEbLATIN SMALL LETTER R BELOWbBREVE-MACRON"),
  (0x1DCC, "bMACRON-BREVEbDOUBLE CIRCUMFLEX ABOVEbOGONEKnbZIGZAG BELOWbISnbUR ABOVEbUSn"),
  (0x1DD3, "bLATIN SMALL LETTER FLATTENED OPEN AneAEeAOeAVeC CEDILLAeINSULAR DeETHeG"),
  (0x1DDB, "cLETTER SMALL CAPITALncSMALL LETTER KeLcLETTER SMALL CAPITALnfMcSMALL LETTER N"),
  (0x1DE1, "cLETTER SMALL CAPITALnfRcSMALL LETTER R ROTUNDAeSeLONGneZeALPHAeBeBETAeSCHWAeF"),
  (0x1DEC, "eL WITH DOUBLE MIDDLE TILDEeO WITH LIGHT CENTRALIZATION STROKEePeESH"),
  (0x1DF0, "eU WITH LIGHT CENTRALIZATION STROKEeWeA WITH DIAERESISeOoeUobUP TACK ABOVE"),
  (0x1DF6, "bKAVYKA ABOVE RIGHTdLEFTbDOTobWIDE INVERTED BRIDGE BELOWbDOT BELOW LEFTbDELETION MARK"),
  (0x1DFC, "bDOUBLE INVERTED BREVE BELOWbALMOST EQUAL TOnbLEFT ARROWHEAD ABOVE"),
  (0x1DFF, "bRIGHT ARROWHEAD AND DOWN ARROWHEAD BELOWaLATIN CAPITAL LETTER A WITH RINGnbSMALLr"),
  (0x1E02, "bCAPITAL LETTER B WITH DOT ABOVEbSMALLrbCAPITAL LETTER B WITH DOT BELOWbSMALLr"),
  (0x1E06, "bCAPITAL LETTER B WITH LINEnbSMALLrbCAPITAL LETTER C WITH CEDILLA AND ACUTEbSMALLs"),
  (0x1E0A, "bCAPITAL LETTER D WITH DOT ABOVEbSMALLrbCAPITAL LETTER D WITH DOT BELOWbSMALLr"),
  (0x1E0E, "bCAPITAL LETTER D WITH LINEnbSMALLrbCAPITAL LETTER D WITH CEDILLAbSMALLq"),
  (0x1E12, "bCAPITAL LETTER D WITH CIRCUMFLEX BELOWbSMALLrbCAPITAL LETTER E WITH MACRON AND GRAVE"),
  (0x1E15, "bSMALLsbCAPITAL LETTER E WITH MACRON AND ACUTEbSMALLs"),
  (0x1E18, "bCAPITAL LETTER E WITH CIRCUMFLEX BELOWbSMALLrbCAPITAL LETTER E WITH TILDEnbSMALLr"),
  (0x1E1C, "bCAPITAL LETTER E WITH CEDILLA AND BREVEbSMALLsbCAPITAL LETTER F WITH DOT ABOVE"),
  (0x1E1F, "bSMALLrbCAPITAL LETTER G WITH MACRONbSMALLqbCAPITAL LETTER H WITH DOT ABOVEbSMALLr"),
  (0x1E24, "bCAPITAL LETTER H WITH DOT BELOWbSMALLrbCAPITAL LETTER H WITH DIAERESISbSMALLq"),
  (0x1E28, "bCAPITAL LETTER H WITH CEDILLAbSMALLqbCAPITAL LETTER H WITH BREVE BELOWbSMALLr"),
  (0x1E2C, "bCAPITAL LETTER I WITH TILDEnbSMALLrbCAPITAL LETTER I WITH DIAERESIS AND ACUTEbSMALLs"),
  (0x1E30, "bCAPITAL LETTER K WITHnbSMALLqbCAPITAL LETTER K WITH DOT BELOWbSMALLr"),
  (0x1E34, "bCAPITAL LETTER K WITH LINEnbSMALLrbCAPITAL LETTER L WITH DOTnbSMALLr"),
  (0x1E38, "bCAPITAL LETTER L WITH DOT BELOW AND MACRONbSMALLtbCAPITAL LETTER L WITH LINE BELOW"),
  (0x1E3B, "bSMALLrbCAPITAL LETTER L WITH CIRCUMFLEXnbSMALLrbCAPITAL LETTER M WITH ACUTEbSMALLq"),
  (0x1E40, "bCAPITAL LETTER M WITH DOT ABOVEbSMALLrbCAPITAL LETTER M WITH DOT BELOWbSMALLr"),
  (0x1E44, "bCAPITAL LETTER N WITH DOT ABOVEbSMALLrbCAPITAL LETTER N WITH DOT BELOWbSMALLr"),
  (0x1E48, "bCAPITAL LETTER N WITH LINEnbSMALLrbCAPITAL LETTER N WITH CIRCUMFLEXnbSMALLr"),
  (0x1E4C, "bCAPITAL LETTER O WITH TILDE AND ACUTEbSMALLs"),
  (0x1E4E, "bCAPITAL LETTER O WITH TILDE AND DIAERESISbSMALLs"),
  (0x1E50, "bCAPITAL LETTER O WITH MACRON AND GRAVEbSMALLsbCAPITAL LETTER O WITH MACRON AND ACUTE"),
  (0x1E53, "bSMALLsbCAPITAL LETTER P WITHnbSMALLqbCAPITAL LETTER P WITH DOT ABOVEbSMALLr"),
  (0x1E58, "bCAPITAL LETTER RpbSMALLrbCAPITAL LETTER R WITH DOT BELOWbSMALLr"),
  (0x1E5C, "bCAPITAL LETTER R WITH DOT BELOW AND MACRONbSMALLtbCAPITAL LETTER R WITH LINE BELOW"),
  (0x1E5F, "bSMALLrbCAPITAL LETTER S WITH DOT ABOVEbSMALLrbCAPITAL LETTER S WITH DOT BELOWbSMALLr"),
  (0x1E64, "bCAPITAL LETTER S WITH ACUTE AND DOT ABOVEbSMALLtbCAPITAL LETTER S WITH CARONpbSMALLt"),
  (0x1E68, "bCAPITAL LETTER S WITH DOT BELOWpbSMALLubCAPITAL LETTER T WITHobSMALLr"),
  (0x1E6C, "bCAPITAL LETTER T WITH DOT BELOWbSMALLrbCAPITAL LETTER T WITH LINEnbSMALLr"),
  (0x1E70, "bCAPITAL LETTER T WITH CIRCUMFLEXnbSMALLrbCAPITAL LETTER U WITH DIAERESISnbSMALLr"),
  (0x1E74, "bCAPITAL LETTER U WITH TILDEnbSMALLrbCAPITAL LETTER U WITH CIRCUMFLEXnbSMALLr"),
  (0x1E78, "bCAPITAL LETTER U WITH TILDE AND ACUTEbSMALLs"),
  (0x1E7A, "bCAPITAL LETTER U WITH MACRON AND DIAERESISbSMALLsbCAPITAL LETTER V WITH TILDEbSMALLq"),
  (0x1E7E, "bCAPITAL LETTER V WITH DOT BELOWbSMALLrbCAPITAL LETTER W WITH GRAVEbSMALLq"),
  (0x1E82, "bCAPITAL LETTER W WITH ACUTEbSMALLqbCAPITAL LETTER W WITH DIAERESISbSMALLq"),
  (0x1E86, "bCAPITAL LETTER W WITH DOT ABOVEbSMALLrbCAPITAL LETTER W WITH DOT BELOWbSMALLr"),
  (0x1E8A, "bCAPITAL LETTER X WITH DOT ABOVEbSMALLrbCAPITAL LETTER X WITH DIAERESISbSMALLq"),
  (0x1E8E, "bCAPITAL LETTER Y WITH DOT ABOVEbSMALLrbCAPITAL LETTER Z WITH CIRCUMFLEXbSMALLq"),
  (0x1E92, "bCAPITAL LETTER Z WITH DOT BELOWbSMALLrbCAPITAL LETTER Z WITH LINEnbSMALLrdHp"),
  (0x1E97, "dT WITH DIAERESISdW WITH RING ABOVEdYpdA WITH RIGHT HALF RINGdLONG S WITH DOT ABOVE"),
  (0x1E9C, "gDIAGONAL STROKEgHIGHnbCAPITAL LETTER SHARP SbSMALL LETTER DELTA"),
  (0x1EA0, "bCAPITAL LETTER A WITH DOT BELOWbSMALLrbCAPITAL LETTER A WITH HOOK ABOVEbSMALLr"),
  (0x1EA4, "bCAPITAL LETTER A WITH CIRCUMFLEX AND ACUTEbSMALLs"),
  (0x1EA6, "bCAPITAL LETTER A WITH CIRCUMFLEX AND GRAVEbSMALLs"),
  (0x1EA8, "bCAPITAL LETTER A WITH CIRCUMFLEX AND HOOK ABOVEbSMALLt"),
  (0x1EAA, "bCAPITAL LETTER A WITH CIRCUMFLEX AND TILDEbSMALLs"),
  (0x1EAC, "bCAPITAL LETTER A WITH CIRCUMFLEX AND DOT BELOWbSMALLt"),
  (0x1EAE, "bCAPITAL LETTER A WITH BREVE AND ACUTEbSMALLsbCAPITAL LETTER A WITH BREVE AND GRAVE"),
  (0x1EB1, "bSMALLsbCAPITAL LETTER A WITH BREVE AND HOOK ABOVEbSMALLt"),
  (0x1EB4, "bCAPITAL LETTER A WITH BREVE AND TILDEbSMALLs"),
  (0x1EB6, "bCAPITAL LETTER A WITH BREVE AND DOT BELOWbSMALLtbCAPITAL LETTER E WITHobSMALLr"),
  (0x1EBA, "bCAPITAL LETTER E WITH HOOK ABOVEbSMALLrbCAPITAL LETTER E WITH TILDEbSMALLq"),
  (0x1EBE, "bCAPITAL LETTER E WITH CIRCUMFLEX AND ACUTEbSMALLs"),
  (0x1EC0, "bCAPITAL LETTER E WITH CIRCUMFLEX AND GRAVEbSMALLs"),
  (0x1EC2, "bCAPITAL LETTER E WITH CIRCUMFLEX AND HOOK ABOVEbSMALLt"),
  (0x1EC4, "bCAPITAL LETTER E WITH CIRCUMFLEX AND TILDEbSMALLs"),
  (0x1EC6, "bCAPITAL LETTER E WITH CIRCUMFLEX AND DOT BELOWbSMALLt"),
  (0x1EC8, "bCAPITAL LETTER I WITH HOOK ABOVEbSMALLrbCAPITAL LETTER I WITH DOT BELOWbSMALLr"),
  (0x1ECC, "bCAPITAL LETTER OpbSMALLrbCAPITAL LETTER O WITH HOOK ABOVEbSMALLr"),
  (0x1ED0, "bCAPITAL LETTER O WITH CIRCUMFLEX AND ACUTEbSMALLs"),
  (0x1ED2, "bCAPITAL LETTER O WITH CIRCUMFLEX AND GRAVEbSMALLs"),
  (0x1ED4, "bCAPITAL LETTER O WITH CIRCUMFLEX AND HOOK ABOVEbSMALLt"),
  (0x1ED6, "bCAPITAL LETTER O WITH CIRCUMFLEX AND TILDEbSMALLs"),
  (0x1ED8, "bCAPITAL LETTER O WITH CIRCUMFLEX AND DOT BELOWbSMALLt"),
  (0x1EDA, "bCAPITAL LETTER O WITH HORN AND ACUTEbSMALLsbCAPITAL LETTER O WITH HORN AND GRAVE"),
  (0x1EDD, "bSMALLsbCAPITAL LETTER O WITH HORN AND HOOK ABOVEbSMALLt"),
  (0x1EE0, "bCAPITAL LETTER O WITH HORN AND TILDEbSMALLsbCAPITAL LETTER O WITH HORN AND DOT BELOW"),
  (0x1EE3, "bSMALLtbCAPITAL LETTER U WITHobSMALLrbCAPITAL LETTER U WITH HOOK ABOVEbSMALLr"),
  (0x1EE8, "bCAPITAL LETTER U WITH HORN AND ACUTEbSMALLsbCAPITAL LETTER U WITH HORN AND GRAVE"),
  (0x1EEB, "bSMALLsbCAPITAL LETTER U WITH HORN AND HOOK ABOVEbSMALLt"),
  (0x1EEE, "bCAPITAL LETTER U WITH HORN AND TILDEbSMALLsbCAPITAL LETTER U WITH HORN AND DOT BELOW"),
  (0x1EF1, "bSMALLtbCAPITAL LETTER Y WITH GRAVEbSMALLqbCAPITAL LETTER Y WITH DOT BELOWbSMALLr"),
  (0x1EF6, "bCAPITAL LETTER Y WITH HOOK ABOVEbSMALLrbCAPITAL LETTER Y WITH TILDEbSMALLq"),
  (0x1EFA, "bCAPITAL LETTER MIDDLE-WELSH LLbSMALLpbCAPITAL LETTER MIDDLE-WELSH VbSMALLp"),
  (0x1EFE, "bCAPITAL LETTER Y WITH LOOPbSMALLqaGREEK SMALL LETTER ALPHA WITH PSILIfDASIA"),
  (0x1F02, "fPSILI AND VARIAfDASIAofPSILI AND OXIAfDASIAofPSILI AND PERISPOMENIfDASIAo"),
  (0x1F08, "bCAPITAL LETTER ALPHA WITH PSILIfDASIAfPSILI AND VARIAfDASIAofPSILI AND OXIAfDASIAo"),
  (0x1F0E, "fPSILI AND PERISPOMENIfDASIAobSMALL LETTER EPSILON WITH PSILIfDASIAfPSILI AND VARIA"),
  (0x1F13, "fDASIAofPSILI AND OXIAfDASIAo"),
  (0x1F18, "bCAPITAL LETTER EPSILON WITH PSILIfDASIAfPSILI AND VARIAfDASIAofPSILI AND OXIAfDASIAo"),
  (0x1F20, "bSMALL LETTER ETA WITH PSILIfDASIAfPSILI AND VARIAfDASIAofPSILI AND OXIAfDASIAo"),
  (0x1F26, "fPSILI AND PERISPOMENIfDASIAobCAPITAL LETTER ETA WITH PSILIfDASIAfPSILI AND VARIA"),
  (0x1F2B, "fDASIAofPSILI AND OXIAfDASIAofPSILI AND PERISPOMENIfDASIAo"),
  (0x1F30, "bSMALL LETTER IOTA WITH PSILIfDASIAfPSILI AND VARIAfDASIAofPSILI AND OXIAfDASIAo"),
  (0x1F36, "fPSILI AND PERISPOMENIfDASIAobCAPITAL LETTER IOTA WITH PSILIfDASIAfPSILI AND VARIA"),
  (0x1F3B, "fDASIAofPSILI AND OXIAfDASIAofPSILI AND PERISPOMENIfDASIAo"),
  (0x1F40, "bSMALL LETTER OMICRON WITH PSILIfDASIAfPSILI AND VARIAfDASIAofPSILI AND OXIAfDASIAo"),
  (0x1F48, "bCAPITAL LETTER OMICRON WITH PSILIfDASIAfPSILI AND VARIAfDASIAofPSILI AND OXIAfDASIAo"),
  (0x1F50, "bSMALL LETTER UPSILON WITH PSILIfDASIAfPSILI AND VARIAfDASIAofPSILI AND OXIAfDASIAo"),
  (0x1F56, "fPSILI AND PERISPOMENIfDASIAo"),
  (0x1F59, "bCAPITAL LETTER UPSILON WITH DASIA"),
  (0x1F5B, "gAND VARIA"),
  (0x1F5D, "hOXIA"),
  (0x1F5F, "hPERISPOMENIbSMALL LETTER OMEGA WITH PSILIfDASIAfPSILI AND VARIAfDASIAo"),
  (0x1F64, "fPSILI AND OXIAfDASIAofPSILI AND PERISPOMENIfDASIAobCAPITAL LETTER OMEGA WITH PSILI"),
  (0x1F69, "fDASIAfPSILI AND VARIAfDASIAofPSILI AND OXIAfDASIAofPSILI AND PERISPOMENIfDASIAo"),
  (0x1F70, "bSMALL LETTER ALPHA WITH VARIAfOXIAdEPSILON WITH VARIAfOXIAdETA WITH VARIAfOXIA"),
  (0x1F76, "dIOTA WITH VARIAfOXIAdOMICRON WITH VARIAfOXIAdUPSILON WITH VARIAfOXIA"),
  (0x1F7C, "dOMEGA WITH VARIAfOXIA"),
  (0x1F80, "dALPHA WITH PSILI AND YPOGEGRAMMENIfDASIAofPSILI AND VARIAofDASIAqfPSILI AND OXIAo"),
  (0x1F85, "fDASIAqfPSILI AND PERISPOMENIofDASIAq"),
  (0x1F88, "bCAPITAL LETTER ALPHA WITH PSILI AND PROSGEGRAMMENIfDASIAofPSILI AND VARIAofDASIAq"),
  (0x1F8C, "fPSILI AND OXIAofDASIAqfPSILI AND PERISPOMENIofDASIAq"),
  (0x1F90, "bSMALL LETTER ETA WITH PSILI AND YPOGEGRAMMENIfDASIAofPSILI AND VARIAofDASIAq"),
  (0x1F94, "fPSILI AND OXIAofDASIAqfPSILI AND PERISPOMENIofDASIAq"),
  (0x1F98, "bCAPITAL LETTER ETA WITH PSILI AND PROSGEGRAMMENIfDASIAofPSILI AND VARIAofDASIAq"),
  (0x1F9C, "fPSILI AND OXIAofDASIAqfPSILI AND PERISPOMENIofDASIAq"),
  (0x1FA0, "bSMALL LETTER OMEGA WITH PSILI AND YPOGEGRAMMENIfDASIAofPSILI AND VARIAofDASIAq"),
  (0x1FA4, "fPSILI AND OXIAofDASIAqfPSILI AND PERISPOMENIofDASIAq"),
  (0x1FA8, "bCAPITAL LETTER OMEGA WITH PSILI AND PROSGEGRAMMENIfDASIAofPSILI AND VARIAofDASIAq"),
  (0x1FAC, "fPSILI AND OXIAofDASIAqfPSILI AND PERISPOMENIofDASIAqbSMALL LETTER ALPHA WITH VRACHY"),
  (0x1FB1, "fMACRONfVARIA AND YPOGEGRAMMENIfnfOXIA ANDn"),
  (0x1FB6, "fPERISPOMENIgAND YPOGEGRAMMENIbCAPITAL LETTER ALPHA WITH VRACHYfMACRONfVARIAfOXIA"),
  (0x1FBC, "fPROSGEGRAMMENIbKORONISbPROSGEGRAMMENIbPSILIbPERISPOMENIbDIALYTIKA ANDn"),
  (0x1FC2, "bSMALL LETTER ETA WITH VARIA AND YPOGEGRAMMENIfnfOXIA ANDn"),
  (0x1FC6, "fPERISPOMENIgAND YPOGEGRAMMENIbCAPITAL LETTER EPSILON WITH VARIAfOXIAdETA WITH VARIA"),
  (0x1FCB, "fOXIAfPROSGEGRAMMENIbPSILI AND VARIAdOXIAdPERISPOMENIbSMALL LETTER IOTA WITH VRACHY"),
  (0x1FD1, "fMACRONfDIALYTIKA AND VARIAhOXIA"),
  (0x1FD6, "fPERISPOMENIfDIALYTIKA ANDnbCAPITAL LETTER IOTA WITH VRACHYfMACRONfVARIAfOXIA"),
  (0x1FDD, "bDASIA AND VARIAdOXIAdPERISPOMENIbSMALL LETTER UPSILON WITH VRACHYfMACRON"),
  (0x1FE2, "fDIALYTIKA AND VARIAhOXIAdRHO WITH PSILIfDASIAdUPSILON WITH PERISPOMENI"),
  (0x1FE7, "fDIALYTIKA ANDnbCAPITAL LETTER UPSILON WITH VRACHYfMACRONfVARIAfOXIAdRHO WITH DASIA"),
  (0x1FED, "bDIALYTIKA AND VARIAdOXIAbVARIA"),
  (0x1FF2, "bSMALL LETTER OMEGA WITH VARIA AND YPOGEGRAMMENIfnfOXIA ANDn"),
  (0x1FF6, "fPERISPOMENIgAND YPOGEGRAMMENIbCAPITAL LETTER OMICRON WITH VARIAfOXIA"),
  (0x1FFA, "dOMEGA WITH VARIAfOXIAfPROSGEGRAMMENIbOXIAbDASIA")]

end BooksGateway.Text.CharName
